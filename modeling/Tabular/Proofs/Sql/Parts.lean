/-
# The parts of a query are read back

Each part of a query as `Phrases` writes it, followed by blanks, is read as what it says: fields
and calls (`readField_tokens`), sort keys (`readSortKey_tokens`), conditions
(`readCondition_tokens`), limits (`readLimit_tokens`), joins (`readJoin_tokens`), and lists of
them.

Three facts about each part carry this.  It closes the parentheses that it opens and `Shows` only
its own keywords; it holds no separator of the list that it is an entry of; and it `Prints` its
text, whatever blanks stand around it.  They come from the words: a name is no keyword, nor is the
name of a function (`ofWord?_of_ofName?`), and a literal is one token.
-/
import Tabular.Proofs.Sql.Calls
import Tabular.Proofs.Sql.Phrases
import Tabular.Proofs.Text.Lowercase
import Mathlib.Data.List.Forall2

namespace Tabular
namespace Sql

/-! ## 1. Words -/

theorem Written.keyword? {k : Keyword} (w : Written k) : w.token.keyword? = some k := w.ofWord

theorem Written.isKeyword {k : Keyword} (w : Written k) : w.token.isKeyword k = true := by
  rw [Token.isKeyword, w.keyword?]
  simp

theorem Written.isKeyword_eq_false {k k' : Keyword} (w : Written k) (h : k ≠ k') :
    w.token.isKeyword k' = false := by
  rw [Token.isKeyword, w.keyword?]
  simp [h]

/-- A name is none of the keywords that a reader of queries for rows looks for. -/
theorem Name.isKeyword_eq_false (n : Name) {k : Keyword} (hk : k ∉ changeKeywords) :
    n.token.isKeyword k = false := by
  rw [Token.isKeyword, decide_eq_false_iff_not]
  intro h
  have hword : Keyword.ofWord? n.text = some k := h
  have hall := n.notKeyword
  rw [hword, Option.all_some, decide_eq_true_iff] at hall
  exact hk hall

theorem isAlpha_of_isUpper_toUpper {c : Char} (h : c.toUpper.isUpper = true) :
    c.isAlpha = true := by
  have halpha : c.isAlpha = (c.isUpper || c.isLower) := rfl
  have hrange : c.isLower = (decide (c.val ≥ 'a'.val) && decide (c.val ≤ 'z'.val)) := rfl
  rw [halpha, Bool.or_eq_true]
  by_cases hlower : c.isLower = true
  · exact Or.inr hlower
  · have hfixed : c.toUpper = c := by
      simp only [hrange, Bool.and_eq_true, decide_eq_true_eq] at hlower
      exact dif_neg hlower
    rw [hfixed] at h
    exact Or.inl h

/-- A word whose simple uppercase form is in capitals has that form as its ASCII form. -/
theorem asciiCapitals?_eq_some {text : String}
    (h : (text.toList.map Char.toUpper).all Char.isUpper = true) :
    Text.asciiCapitals? text = some (String.ofList (text.toList.map Char.toUpper)) := by
  have hmap : ∀ cs : List Char, (cs.map Char.toUpper).all Char.isUpper = true →
      cs.mapM Text.capitals? = some (cs.map fun c => [c.toUpper]) := by
    intro cs hcs
    induction cs with
    | nil => rfl
    | cons c cs ih =>
      rw [List.map_cons, List.all_cons, Bool.and_eq_true] at hcs
      have hc : Text.capitals? c = some [c.toUpper] := by
        unfold Text.capitals?
        rw [if_pos (isAlpha_of_isUpper_toUpper hcs.1)]
      rw [List.mapM_cons, hc, ih hcs.2]
      rfl
  have hflatten : (text.toList.map fun c => [c.toUpper]).flatten = text.toList.map Char.toUpper := by
    rw [← List.flatMap_def, List.map_eq_flatMap]
  rw [Text.asciiCapitals?, hmap _ h, Option.map_some, hflatten]

/-- The name of a function is no keyword. -/
theorem ofWord?_of_ofName? {text : String} {function : AggregateFunction}
    (h : AggregateFunction.ofName? text = some function) : Keyword.ofWord? text = none := by
  have hname : ∀ name : String, name.toList.all Char.isUpper = true →
      Keyword.all.find? (fun k => k.spelling = name) = none →
      String.ofList (text.toList.map Char.toUpper) = name → Keyword.ofWord? text = none := by
    intro name hupper hfind heq
    rw [← heq, String.toList_ofList] at hupper
    rw [Keyword.ofWord?, asciiCapitals?_eq_some hupper, heq]
    exact hfind
  unfold AggregateFunction.ofName? at h
  split at h
  · exact hname "COUNT" (by decide) (by decide) ‹_›
  · exact hname "SUM" (by decide) (by decide) ‹_›
  · exact hname "AVG" (by decide) (by decide) ‹_›
  · exact hname "MIN" (by decide) (by decide) ‹_›
  · exact hname "MAX" (by decide) (by decide) ‹_›
  · simp at h

theorem FunctionName.keyword? (f : FunctionName) :
    Token.keyword? (.word f.text none) = none := ofWord?_of_ofName? f.ofName

theorem FunctionName.ne_empty (f : FunctionName) : f.text ≠ "" := by
  intro h
  have hname := f.ofName
  rw [h] at hname
  simp [AggregateFunction.ofName?] at hname

/-- The value of a numeral is the number that its digits write. -/
theorem Numeral.readDigits? (n : Numeral) : Sql.readDigits? 10 n.text.toList = some n.value := by
  have hfold : ∀ (cs : List Char) (m : Nat), cs.all Char.isDigit = true →
      cs.foldlM (fun n c => (digitValue? 10 c).map (10 * n + ·)) m =
        some (Nat.ofDigitChars 10 cs m) := by
    intro cs
    induction cs with
    | nil => exact fun m _ => rfl
    | cons c cs ih =>
      intro m hcs
      rw [List.all_cons, Bool.and_eq_true] at hcs
      have hvalue : digitValue? 10 c = some (c.toNat - '0'.toNat) := by
        have hle := hcs.1
        simp only [Char.isDigit, Bool.and_eq_true, decide_eq_true_eq] at hle
        have hlt : c.toNat - '0'.toNat < 10 := by
          have h9 : c.toNat ≤ 57 := hle.2
          have h0 : '0'.toNat = 48 := rfl
          omega
        rw [digitValue?, if_pos hcs.1, Option.filter_some, if_pos (by simpa using hlt)]
      rw [List.foldlM_cons, hvalue]
      exact ih _ hcs.2
  exact hfold _ 0 n.digits

/-! ## 2. Fields -/

/-- Blanks in a row are all alike. -/
theorem forall_mem_blanks {P : Token → Prop} (h : P .blank) (n : Nat) : ∀ t ∈ blanks n, P t := by
  intro t ht
  rw [(List.mem_replicate.mp ht).2]
  exact h

/-- A reference consists of names and a point. -/
theorem Reference.forall_mem {P : Token → Prop} (hname : ∀ n : Name, P n.token)
    (hpoint : P (.symbol .period)) (r : Reference) : ∀ t ∈ r.tokens, P t := by
  obtain ⟨table, column⟩ := r
  cases table with
  | none => simpa [tokens] using hname column
  | some t => simpa [tokens] using ⟨hname t, hpoint, hname column⟩

/-- What is between the parentheses of a call holds neither a comma nor a parenthesis. -/
theorem ArgumentPhrase.forall_mem {P : Token → Prop} (hblank : P .blank)
    (hword : ∀ text quotedBy, P (.word text quotedBy)) (hpoint : P (.symbol .period))
    (hstar : P (.symbol .star)) (a : ArgumentPhrase) : ∀ t ∈ a.tokens, P t := by
  have hblanks := forall_mem_blanks hblank
  have hreference := Reference.forall_mem (fun _ => hword _ _) hpoint
  cases a with
  | star gap => exact List.forall_mem_append.mpr ⟨hblanks gap, by simpa using hstar⟩
  | column r => exact List.forall_mem_append.mpr ⟨hblanks _, hreference _⟩
  | distinct w r =>
    simp only [tokens, Written.tokens, Spaced.tokens, List.forall_mem_append]
    exact ⟨⟨hblanks _, List.forall_mem_singleton.mpr (hword _ _)⟩, hblanks _, hreference _⟩

theorem Written.shows {k : Keyword} {ks : List Keyword} (w : Written k) (h : k ∈ ks) :
    Shows ks w.tokens := by
  refine (Shows.blanks w.gap).append (Shows.singleton (fun _ => rfl) ?_)
  intro k' hk
  rw [← Option.some.inj (w.keyword?.symm.trans hk)]
  exact List.mem_append_right _ h

theorem TableName.shows {ks : List Keyword} (n : TableName) : Shows ks [n.token] := by
  refine Shows.singleton (fun _ => rfl) fun k hk => List.mem_append_left _ ?_
  have hall := n.notKeyword
  have hword : Token.keyword? (.word n.text n.quotedBy) = some k := hk
  rwa [hword, Option.all_some, decide_eq_true_iff] at hall

theorem Name.shows {ks : List Keyword} (n : Name) : Shows ks [n.token] :=
  TableName.shows ⟨n.text, none, n.notKeyword⟩

theorem Spaced.shows {α : Type} {f : α → List Token} {ks : List Keyword}
    (h : ∀ a, Shows ks (f a)) (s : Spaced α) : Shows ks (s.tokens f) :=
  (Shows.blanks s.gap).append (h s.item)

theorem shows_symbol {ks : List Keyword} {s : Symbol} (hopen : s ≠ .leftParen)
    (hclose : s ≠ .rightParen) : Shows ks [.symbol s] := by
  refine Shows.singleton ?_ (by simp [Token.keyword?])
  intro depth
  cases s <;> simp_all [depthAfter]

theorem Reference.shows {ks : List Keyword} (r : Reference) : Shows ks r.tokens := by
  obtain ⟨table, column⟩ := r
  cases table with
  | none => exact column.shows
  | some t =>
    exact t.shows.append ((shows_symbol (by decide) (by decide)).append column.shows)

theorem ArgumentPhrase.shows (a : ArgumentPhrase) : Shows [.DISTINCT] a.tokens := by
  cases a with
  | star gap => exact (Shows.blanks gap).append (shows_symbol (by decide) (by decide))
  | column r => exact r.shows Reference.shows
  | distinct w r => exact (w.shows List.mem_cons_self).append (r.shows Reference.shows)

/-- A call closes its parenthesis. -/
theorem CallPhrase.shows (c : CallPhrase) : Shows [.DISTINCT] c.tokens where
  level depth := by
    have hopen := (Shows.blanks c.openGap : Shows [] _).level
    have hclose := (Shows.blanks c.closeGap : Shows [] _).level
    simp only [tokens, List.foldl_cons, List.foldl_append, hopen, hclose, c.argument.shows.level]
    simp [depthAfter]
  keyword := by
    have hopen := (Shows.blanks c.openGap : Shows [.DISTINCT] _).keyword
    have hclose := (Shows.blanks c.closeGap : Shows [.DISTINCT] _).keyword
    simp only [tokens, List.forall_mem_cons, List.forall_mem_append, c.function.keyword?]
    exact ⟨by simp, hopen, by simp [Token.keyword?], c.argument.shows.keyword, hclose,
      by simp [Token.keyword?]⟩

theorem FieldPhrase.shows (f : FieldPhrase) : Shows [.DISTINCT] f.tokens := by
  cases f with
  | reference r => exact r.shows
  | star => exact shows_symbol (by decide) (by decide)
  | call c => exact c.shows

/-- **A field holds no comma.** -/
theorem FieldPhrase.isComma_eq_false (f : FieldPhrase) : ∀ t ∈ f.tokens, isComma t = false := by
  have hblanks := forall_mem_blanks (P := fun t => isComma t = false) rfl
  cases f with
  | reference r => exact r.forall_mem (P := fun t => isComma t = false) (fun _ => rfl) rfl
  | star => simp [tokens, isComma]
  | call c =>
    have hargument := c.argument.forall_mem (P := fun t => isComma t = false) rfl
      (fun _ _ => rfl) rfl rfl
    simp only [tokens, CallPhrase.tokens, List.forall_mem_cons, List.forall_mem_append]
    exact ⟨rfl, hblanks _, rfl, hargument, hblanks _, by simp [isComma]⟩

/-! ## 3. Texts -/

theorem Name.prints (n : Name) : Prints [n.token] n.text := Prints.singleton rfl n.ne_empty

theorem Written.prints {k : Keyword} (w : Written k) : Prints [w.token] w.text := by
  refine Prints.singleton rfl ?_
  intro h
  have hword := w.ofWord
  rw [show w.text = "" from h] at hword
  revert hword
  cases k <;> decide

theorem Reference.prints (r : Reference) : Prints r.tokens r.text := by
  obtain ⟨table, column⟩ := r
  cases table with
  | none => exact column.prints
  | some t =>
    have hpoint : Prints [.symbol .period] "." := Prints.singleton rfl (by decide)
    simpa [tokens, text, gapText, blanks, String.append_assoc] using
      t.prints.append 0 (hpoint.append 0 column.prints)

/-- What a call is applied to is printed with the blanks before it. -/
theorem ArgumentPhrase.exists_prints (a : ArgumentPhrase) : ∃ gap core coreText,
    a.tokens = blanks gap ++ core ∧ a.text = gapText gap ++ coreText ∧ Prints core coreText := by
  cases a with
  | star gap => exact ⟨gap, _, _, rfl, rfl, Prints.singleton rfl (by decide)⟩
  | column r => exact ⟨r.gap, _, _, rfl, rfl, r.item.prints⟩
  | distinct w r =>
    refine ⟨w.gap, _, _, ?_, rfl, w.prints.append r.gap r.item.prints⟩
    simp [tokens, Written.tokens, Spaced.tokens]

theorem CallPhrase.prints (c : CallPhrase) : Prints c.tokens c.text := by
  obtain ⟨gap, core, coreText, htokens, htext, hcore⟩ := c.argument.exists_prints
  have hname : Prints [.word c.function.text none] c.function.text :=
    Prints.singleton rfl c.function.ne_empty
  have hopen : Prints [.symbol .leftParen] "(" := Prints.singleton rfl (by decide)
  have hclose : Prints [.symbol .rightParen] ")" := Prints.singleton rfl (by decide)
  have h := hname.append c.openGap (hopen.append gap (hcore.append c.closeGap hclose))
  simpa [tokens, text, htokens, htext, String.append_assoc] using h

theorem FieldPhrase.prints (f : FieldPhrase) : Prints f.tokens f.text := by
  cases f with
  | reference r => exact r.prints
  | star => exact Prints.singleton rfl (by decide)
  | call c => exact c.prints

theorem FieldPhrase.name_ne_empty (f : FieldPhrase) : f.name ≠ "" :=
  fun h => f.prints.ne_empty (Text.lower_eq_empty_iff.mp h)

/-! ## 4. Aggregates -/

theorem Reference.significant_tokens (r : Reference) : significant r.tokens = r.tokens := by
  rw [significant, List.filter_eq_self]
  exact r.forall_mem (P := fun t => (!t.isBlank) = true) (fun _ => rfl) rfl

/-- Without a parenthesis there is no call. -/
theorem findAggregate_eq_none {ts : List Token} (h : ∀ t ∈ ts, t ≠ .symbol .leftParen) :
    findAggregate ts = none := by
  induction ts with
  | nil => rfl
  | cons t ts ih =>
    have hhere : callHere? (t :: ts) = none := by
      unfold callHere?
      split
      · rename_i heq
        exact absurd rfl (h (.symbol .leftParen) (by simp [heq]))
      · rfl
    rw [findAggregate_cons, hhere, Option.none_or]
    exact ih fun s hs => h s (List.mem_cons_of_mem _ hs)

/-- What stands in a call, without blanks. -/
theorem ArgumentPhrase.aggregateCall? (a : ArgumentPhrase) (function : AggregateFunction) :
    Sql.aggregateCall? function (significant a.tokens) =
      some ⟨function, a.argument, a.isDistinct⟩ := by
  have hreference : ∀ (distinct : Bool) (r : Reference),
      argument? distinct r.tokens = some (.column (Text.lower r.text)) := by
    intro distinct r
    obtain ⟨table, column⟩ := r
    cases table with
    | none =>
      simp [argument?, Reference.tokens, Reference.text, isReference, Name.token, Token.print]
    | some t =>
      simp [argument?, Reference.tokens, Reference.text, isReference, Name.token, Token.print,
        Symbol.spelling, String.append_assoc]
  cases a with
  | star gap =>
    rw [tokens, significant_append, significant_blanks]
    rfl
  | column r =>
    have htokens : significant (column r).tokens = r.item.tokens := by
      simp [tokens, Spaced.tokens, r.item.significant_tokens]
    obtain ⟨n, rest, hhead⟩ : ∃ (n : Name) (rest : List Token),
        r.item.tokens = n.token :: rest := by
      cases htable : r.item.table with
      | none => exact ⟨r.item.column, [], by simp [Reference.tokens, htable]⟩
      | some t => exact ⟨t, _, by simp [Reference.tokens, htable]; rfl⟩
    have hdistinct : n.token.isKeyword .DISTINCT = false := n.isKeyword_eq_false (by decide)
    rw [htokens, hhead, Sql.aggregateCall?, hdistinct, ← hhead, hreference]
    rfl
  | distinct w r =>
    have htokens : significant (distinct w r).tokens = w.token :: r.item.tokens := by
      have hword := significant_cons (t := w.token) rfl
      simp [tokens, Written.tokens, Spaced.tokens, hword, r.item.significant_tokens]
    rw [htokens, Sql.aggregateCall?, if_pos w.isKeyword, hreference]
    rfl

/-- **A call is found in its field**, and nothing else is one. -/
theorem FieldPhrase.findAggregate (f : FieldPhrase) :
    Sql.findAggregate (significant f.tokens) = f.aggregate := by
  cases f with
  | reference r =>
    rw [tokens, r.significant_tokens]
    exact findAggregate_eq_none
      (r.forall_mem (P := fun t => t ≠ .symbol .leftParen) (fun _ => by simp [Name.token]) (by simp))
  | star => rfl
  | call c =>
    have hfunction : functionName? (.word c.function.text none) = some c.function.function :=
      c.function.ofName
    have htokens : significant c.tokens = .word c.function.text none :: .symbol .leftParen ::
        (significant c.argument.tokens ++ [.symbol .rightParen]) := by
      rw [CallPhrase.tokens, significant_cons rfl, significant_append, significant_blanks,
        List.nil_append, significant_cons rfl, significant_append, significant_append,
        significant_blanks]
      rfl
    have hinside : Token.symbol .rightParen ∉ significant c.argument.tokens := by
      intro hmem
      exact c.argument.forall_mem (P := fun t => t ≠ .symbol .rightParen) (by simp)
        (by simp) (by simp) (by simp) _ (List.mem_filter.mp hmem).1 rfl
    rw [tokens, htokens, findAggregate_cons, callHere?, if_pos (by simp), hfunction,
      Option.bind_some, takeWhile_inside hinside [], c.argument.aggregateCall?]
    rfl

/-! ## 5. Entries of a list -/

/-- **A list is parted** into its entries, each with the blanks behind it. -/
theorem Listed.splitTopLevel {σ α : Type} {isSeparator : Token → Bool} {gap : σ → Nat}
    {mark : σ → Token} {f : α → List Token} (hblank : isSeparator .blank = false)
    (hmark : ∀ s, isSeparator (mark s) = true)
    (hlevel : ∀ x depth, (f x).foldl depthAfter depth = depth)
    (hentry : ∀ x, ∀ t ∈ f x, isSeparator t = false) (l : Listed σ α) (n : Nat) :
    List.Forall₂ (fun x part => ∃ m, part = f x ++ blanks m) l.items
      (Sql.splitTopLevel isSeparator 0 (l.tokens gap mark f ++ blanks n)) := by
  have hpart : ∀ x m, ∀ t ∈ f x ++ blanks m, isSeparator t = false := fun x m =>
    List.forall_mem_append.mpr
      ⟨hentry x, forall_mem_blanks (P := fun t => isSeparator t = false) hblank m⟩
  obtain ⟨x, tail⟩ := l
  induction tail generalizing x with
  | nil =>
    have htokens : Listed.tokens gap mark f ⟨x, []⟩ ++ blanks n = f x ++ blanks n := by
      simp [tokens]
    rw [htokens, splitTopLevel_of_forall (hpart x n)]
    exact .cons ⟨n, rfl⟩ .nil
  | cons next tail ih =>
    have htokens : Listed.tokens gap mark f ⟨x, next :: tail⟩ ++ blanks n =
        (f x ++ blanks (gap next.1)) ++ mark next.1 ::
          (Listed.tokens gap mark f ⟨next.2, tail⟩ ++ blanks n) := by
      simp [tokens]
    have hclosed : (f x ++ blanks (gap next.1)).foldl depthAfter 0 = 0 := by
      rw [List.foldl_append, hlevel]
      exact (Shows.blanks _ : Shows [] _).level 0
    rw [htokens, splitTopLevel_cons_of_separator hclosed (hpart x _) (hmark next.1)]
    exact .cons ⟨_, rfl⟩ (ih next.2)

theorem Listed.splitTopLevel_commaTokens {α : Type} {f : α → List Token}
    (hlevel : ∀ x depth, (f x).foldl depthAfter depth = depth)
    (hentry : ∀ x, ∀ t ∈ f x, isComma t = false) (l : Listed Nat α) (n : Nat) :
    List.Forall₂ (fun x part => ∃ m, part = f x ++ blanks m) l.items
      (Sql.splitTopLevel isComma 0 (l.commaTokens f ++ blanks n)) :=
  l.splitTopLevel rfl (fun _ => rfl) hlevel hentry n

theorem Listed.shows {σ α : Type} {gap : σ → Nat} {mark : σ → Token} {f : α → List Token}
    {ks : List Keyword} (hmark : ∀ s, Shows ks [mark s]) (h : ∀ x, Shows ks (f x))
    (l : Listed σ α) : Shows ks (l.tokens gap mark f) := by
  refine (h l.head).append (Shows.flatMap fun p _ => ?_)
  exact (Shows.blanks _).append ((hmark p.1).append (h p.2))

theorem readField_tokens (f : FieldPhrase) (m n : Nat) :
    readField (blanks m ++ (f.tokens ++ blanks n)) = .ok f.field := by
  have hname : Text.lower (render (blanks m ++ (f.tokens ++ blanks n))) = f.name := by
    rw [f.prints.render_blanks]
    rfl
  have hsignificant : significant (blanks m ++ (f.tokens ++ blanks n)) = significant f.tokens := by
    simp
  simp only [readField, hname, if_neg f.name_ne_empty, hsignificant, f.findAggregate]
  rfl

namespace SelectPhrase

theorem shows_fieldTokens (l : Listed Nat (Spaced FieldPhrase)) :
    Shows [.DISTINCT] (fieldTokens l) :=
  l.shows (fun _ => shows_symbol (by decide) (by decide)) (Spaced.shows FieldPhrase.shows)

/-- A list of fields is parted at its commas. -/
theorem splitTopLevel_fieldTokens (l : Listed Nat (Spaced FieldPhrase)) (n : Nat) :
    List.Forall₂ (fun (x : Spaced FieldPhrase) part =>
        ∃ m, part = blanks x.gap ++ (x.item.tokens ++ blanks m)) l.items
      (splitTopLevel isComma 0 (fieldTokens l ++ blanks n)) := by
  have hcomma : ∀ x : Spaced FieldPhrase, ∀ t ∈ x.tokens FieldPhrase.tokens, isComma t = false :=
    fun x => List.forall_mem_append.mpr
      ⟨forall_mem_blanks (P := fun t => isComma t = false) rfl _, x.item.isComma_eq_false⟩
  refine (l.splitTopLevel_commaTokens (fun x => (Spaced.shows FieldPhrase.shows x).level)
    hcomma n).imp ?_
  rintro x part ⟨m, rfl⟩
  exact ⟨m, List.append_assoc ..⟩

theorem readFields_tokens (l : Listed Nat (Spaced FieldPhrase)) (n : Nat) :
    readFields (fieldTokens l ++ blanks n) = .ok (l.items.map fun f => f.item.field) := by
  refine mapM_eq_ok (splitTopLevel_fieldTokens l n) ?_
  rintro x part ⟨m, rfl⟩
  exact readField_tokens x.item x.gap m

theorem readGroupBy_tokens (l : Listed Nat (Spaced FieldPhrase)) (n : Nat) :
    readGroupBy (fieldTokens l ++ blanks n) = .ok (l.items.map fun f => f.item.name) := by
  have hlist : readList .groupBy "GROUP BY field" (fieldTokens l ++ blanks n) =
      .ok (l.items.map fun f => f.item.text) := by
    refine mapM_eq_ok (splitTopLevel_fieldTokens l n) ?_
    rintro x part ⟨m, rfl⟩
    rw [x.item.prints.render_blanks, if_neg x.item.prints.ne_empty]
  rw [readGroupBy, hlist, Except.map, List.map_map]
  rfl

end SelectPhrase

/-! ## 6. Sort keys -/

theorem DirectionPhrase.shows (d : DirectionPhrase) : Shows [.ASC, .DESC] d.tokens := by
  cases d with
  | ascending w => exact w.shows (by simp)
  | descending w => exact w.shows (by simp)

theorem SortPhrase.shows (s : SortPhrase) : Shows [.DISTINCT, .ASC, .DESC] s.tokens := by
  refine ((Spaced.shows FieldPhrase.shows s.field).mono (by simp)).append ?_
  cases s.direction with
  | none => exact Shows.nil
  | some d => exact d.shows.mono (by simp)

theorem SortPhrase.isComma_eq_false (s : SortPhrase) : ∀ t ∈ s.tokens, isComma t = false := by
  have hblanks := forall_mem_blanks (P := fun t => isComma t = false) rfl
  have hword : ∀ {k : Keyword} (w : Written k), ∀ t ∈ w.tokens, isComma t = false := fun w =>
    List.forall_mem_append.mpr ⟨hblanks _, List.forall_mem_singleton.mpr rfl⟩
  refine List.forall_mem_append.mpr
    ⟨List.forall_mem_append.mpr ⟨hblanks _, s.field.item.isComma_eq_false⟩, ?_⟩
  rcases s.direction with _ | d | d
  · exact List.forall_mem_nil _
  · exact hword d
  · exact hword d

/-- The direction of a sort key is split off at its end. -/
theorem readSortKey_tokens (s : SortPhrase) (n : Nat) :
    readSortKey (s.tokens ++ blanks n) = .ok s.key := by
  obtain ⟨⟨gap, f⟩, direction⟩ := s
  have hread : ∀ (ts : List Token) (m : Nat) (d : Direction), Solid ts →
      splitDirection ts = (f.tokens ++ blanks m, d) →
      readSortKey (blanks gap ++ (ts ++ blanks n)) = .ok ⟨f.name, d⟩ := by
    intro ts m d hsolid hsplit
    have hname : Text.lower (render (f.tokens ++ blanks m)) = f.name := by
      rw [show f.tokens ++ blanks m = blanks 0 ++ (f.tokens ++ blanks m) from rfl,
        f.prints.render_blanks]
      rfl
    simp only [readSortKey, hsolid.trimTokens, hsplit, hname, if_neg f.name_ne_empty]
  have hdirected : ∀ {k : Keyword} (w : Written k) (d : Direction),
      splitDirection (f.tokens ++ (blanks w.gap ++ [w.token])) = (f.tokens ++ blanks w.gap, d) →
      readSortKey (blanks gap ++ f.tokens ++ w.tokens ++ blanks n) = .ok ⟨f.name, d⟩ := by
    intro k w d hsplit
    have h := hread _ w.gap d (f.prints.append w.gap w.prints).solid hsplit
    simpa [Written.tokens] using h
  cases direction with
  | none =>
    have hsplit : splitDirection f.tokens = (f.tokens ++ blanks 0, .ascending) := by
      have hlast := List.getLast?_eq_getLast_of_ne_nil f.prints.ne_nil
      have hmem := List.getLast_mem f.prints.ne_nil
      have hdesc := f.shows.isKeyword_eq_false (k := .DESC) (by decide) _ hmem
      have hasc := f.shows.isKeyword_eq_false (k := .ASC) (by decide) _ hmem
      simp [splitDirection, hlast, hdesc, hasc, blanks]
    have h := hread f.tokens 0 .ascending f.prints.solid hsplit
    have htokens : SortPhrase.tokens ⟨⟨gap, f⟩, none⟩ ++ blanks n =
        blanks gap ++ (f.tokens ++ blanks n) := by
      simp [SortPhrase.tokens, Spaced.tokens]
    rw [htokens, h]
    rfl
  | some d =>
    cases d with
    | ascending w =>
      refine hdirected w .ascending ?_
      rw [splitDirection, ← List.append_assoc, List.getLast?_concat, List.dropLast_concat]
      simp [w.isKeyword, w.isKeyword_eq_false]
    | descending w =>
      refine hdirected w .descending ?_
      rw [splitDirection, ← List.append_assoc, List.getLast?_concat, List.dropLast_concat]
      simp [w.isKeyword]

theorem readOrderBy_tokens (l : Listed Nat SortPhrase) (n : Nat) :
    readOrderBy (l.commaTokens SortPhrase.tokens ++ blanks n) = .ok (l.items.map SortPhrase.key) := by
  refine mapM_eq_ok (l.splitTopLevel_commaTokens (fun s => s.shows.level)
    SortPhrase.isComma_eq_false n) ?_
  rintro s part ⟨m, rfl⟩
  exact readSortKey_tokens s m

/-! ## 7. Conditions and limits -/

theorem LiteralPhrase.prints (l : LiteralPhrase) : Prints [l.token] l.text := by
  cases l with
  | string text => exact Prints.singleton rfl (by simp [token, Token.print])
  | number n => exact Prints.singleton rfl n.ne_empty

theorem LiteralPhrase.bareLiteral (l : LiteralPhrase) : Sql.bareLiteral l.text = l.bare := by
  cases l with
  | string text =>
    have hchars : ("'" ++ text ++ "'").toList = '\x27' :: (text.toList ++ ['\x27']) := by simp
    rw [Sql.bareLiteral, LiteralPhrase.text, hchars, Text.unquote_quoted rfl, String.ofList_toList]
    rfl
  | number n =>
    obtain ⟨c, cs, hcs⟩ : ∃ c cs, n.text.toList = c :: cs :=
      List.exists_cons_of_ne_nil (by simpa using n.ne_empty)
    have hdigit : c.isDigit = true := by
      have hall := n.digits
      rw [hcs, List.all_cons, Bool.and_eq_true] at hall
      exact hall.1
    have hquote : Text.isQuote c = false := by
      rw [Text.isQuote, Bool.or_eq_false_iff, decide_eq_false_iff_not, decide_eq_false_iff_not]
      exact ⟨by rintro rfl; exact absurd hdigit (by decide),
        by rintro rfl; exact absurd hdigit (by decide)⟩
    rw [Sql.bareLiteral, LiteralPhrase.text, hcs, Text.unquote, if_neg (by simp [hquote]), ← hcs,
      String.ofList_toList]
    rfl

/-- A pattern match is asked for by a keyword, every other comparison by a sign. -/
theorem OperatorPhrase.token_cases (o : OperatorPhrase) :
    (o.token.isKeyword .LIKE = true ∧ o.comparison = .like) ∨
      (o.token.isKeyword .LIKE = false ∧ comparison? o.token = some o.comparison ∧
        o.comparison ≠ .like) := by
  cases o with
  | like text h => exact Or.inl ⟨by simp [token, Token.isKeyword, Token.keyword?, h], rfl⟩
  | equal doubled => cases doubled <;> exact Or.inr ⟨rfl, rfl, by decide⟩
  | _ => exact Or.inr ⟨rfl, rfl, by decide⟩

theorem OperatorPhrase.shows (o : OperatorPhrase) : Shows [.LIKE] [o.token] := by
  cases o with
  | like text h => exact Shows.singleton (fun _ => rfl) (by simp [token, Token.keyword?, h])
  | equal doubled => cases doubled <;> exact shows_symbol (by decide) (by decide)
  | _ => exact shows_symbol (by decide) (by decide)

theorem LiteralPhrase.shows {ks : List Keyword} (l : LiteralPhrase) : Shows ks [l.token] := by
  cases l <;> exact Shows.singleton (fun _ => rfl) (by simp [token, Numeral.token, Token.keyword?])

theorem ConditionPhrase.shows (c : ConditionPhrase) : Shows [.LIKE] c.tokens :=
  (Spaced.shows Reference.shows c.field).append ((Shows.blanks _).append
    (c.operator.item.shows.append ((Shows.blanks _).append c.literal.item.shows)))

/-- **A condition is parted at its operator**, since neither a reference nor a literal shows
one. -/
theorem readCondition_tokens (c : ConditionPhrase) (n : Nat) :
    readCondition (c.tokens ++ blanks n) = .ok c.condition := by
  obtain ⟨⟨fieldGap, r⟩, ⟨operatorGap, o⟩, ⟨literalGap, l⟩⟩ := c
  have htokens : ConditionPhrase.tokens ⟨⟨fieldGap, r⟩, ⟨operatorGap, o⟩, ⟨literalGap, l⟩⟩ ++
      blanks n = (blanks fieldGap ++ (r.tokens ++ blanks operatorGap)) ++
        o.token :: (blanks literalGap ++ ([l.token] ++ blanks n)) := by
    simp [ConditionPhrase.tokens, Spaced.tokens]
  have hmake : ∀ value : String → String, makeCondition o.comparison value
      (blanks fieldGap ++ (r.tokens ++ blanks operatorGap))
      (blanks literalGap ++ ([l.token] ++ blanks n)) =
        .ok ⟨Text.lower r.text, o.comparison, value l.text⟩ := by
    intro value
    have hfield : Text.lower r.text ≠ "" := fun h =>
      r.prints.ne_empty (Text.lower_eq_empty_iff.mp h)
    simp only [makeCondition, r.prints.render_blanks, l.prints.render_blanks]
    rw [if_neg (not_or.mpr ⟨hfield, l.prints.ne_empty⟩)]
  have hleft : Shows [] (blanks fieldGap ++ (r.tokens ++ blanks operatorGap)) :=
    (Shows.blanks _).append (r.shows.append (Shows.blanks _))
  have hright : Shows [] (blanks literalGap ++ ([l.token] ++ blanks n)) :=
    (Shows.blanks _).append (l.shows.append (Shows.blanks _))
  have hlike := hleft.isKeyword_eq_false (k := .LIKE) (by decide)
  rw [htokens, readCondition]
  rcases o.token_cases with ⟨hkeyword, hcomparison⟩ | ⟨hkeyword, hcomparison, hne⟩
  · rw [splitFirst_append hlike hkeyword]
    simp only [← hcomparison, hmake, l.bareLiteral]
    simp [ConditionPhrase.condition, hcomparison]
  · have hnone : ∀ t ∈ (blanks fieldGap ++ (r.tokens ++ blanks operatorGap)) ++
        o.token :: (blanks literalGap ++ ([l.token] ++ blanks n)), t.isKeyword .LIKE = false :=
      List.forall_mem_append.mpr ⟨hlike, List.forall_mem_cons.mpr
        ⟨hkeyword, hright.isKeyword_eq_false (by decide)⟩⟩
    have hplain : ∀ t ∈ blanks fieldGap ++ (r.tokens ++ blanks operatorGap),
        ((comparison? t).isSome || isUnsupported t) = false := by
      have hblanks := forall_mem_blanks
        (P := fun t => ((comparison? t).isSome || isUnsupported t) = false) rfl
      exact List.forall_mem_append.mpr ⟨hblanks _, List.forall_mem_append.mpr
        ⟨r.forall_mem (P := fun t => ((comparison? t).isSome || isUnsupported t) = false)
          (fun _ => rfl) rfl, hblanks _⟩⟩
    rw [splitFirst_eq_none hnone]
    simp only []
    rw [splitFirst_append hplain (by simp [hcomparison])]
    simp only [hcomparison, hmake]
    simp [ConditionPhrase.condition, hne]

theorem Connective.isConnective (c : Connective) : Sql.isConnective c.token = true := by
  cases c with
  | and w => simp [Sql.isConnective, token, w.isKeyword]
  | or w => simp [Sql.isConnective, token, w.isKeyword]

theorem Connective.shows (c : Connective) : Shows [.AND, .OR] [c.token] := by
  cases c with
  | and w => exact Shows.singleton (fun _ => rfl) (by simp [token, w.keyword?])
  | or w => exact Shows.singleton (fun _ => rfl) (by simp [token, w.keyword?])

theorem readConditions_tokens (l : Listed Connective ConditionPhrase) (n : Nat) :
    readConditions (SelectPhrase.conditionTokens l ++ blanks n) =
      .ok (l.items.map ConditionPhrase.condition) := by
  have hplain : ∀ c : ConditionPhrase, ∀ t ∈ c.tokens, isConnective t = false := by
    intro c t ht
    rw [isConnective, c.shows.isKeyword_eq_false (k := .AND) (by decide) t ht,
      c.shows.isKeyword_eq_false (k := .OR) (by decide) t ht]
    rfl
  refine mapM_eq_ok
    (l.splitTopLevel rfl Connective.isConnective (fun c => c.shows.level) hplain n) ?_
  rintro c part ⟨m, rfl⟩
  exact readCondition_tokens c m

/-- A limit that fits into 64 bits is read. -/
theorem readLimit_tokens (l : Spaced Limit) (n : Nat) :
    readLimit (SelectPhrase.limitTokens l ++ blanks n) = .ok (some l.item.numeral.value) := by
  have hsignificant : significant (SelectPhrase.limitTokens l ++ blanks n) =
      [l.item.numeral.token] := by
    rw [SelectPhrase.limitTokens, Spaced.tokens, significant_append, significant_append,
      significant_blanks, significant_blanks]
    rfl
  have hvalue : readLimitNumber? l.item.numeral.text = some l.item.numeral.value := by
    have hne : l.item.numeral.text.toList ≠ [] := by simpa using l.item.numeral.ne_empty
    rw [readLimitNumber?, if_pos ⟨hne, l.item.numeral.digits⟩, l.item.numeral.readDigits?,
      Option.filter_some, if_pos (by simpa using l.item.lt)]
  rw [readLimit, hsignificant]
  simp only [Numeral.token, hvalue]

/-! ## 8. Joins -/

theorem JoinOpening.shows (o : JoinOpening) : Shows [.INNER, .LEFT, .RIGHT, .OUTER] o.tokens := by
  have houter : ∀ outer : Option (Written .OUTER),
      Shows [.INNER, .LEFT, .RIGHT, .OUTER] (outer.elim [] Written.tokens) := by
    intro outer
    cases outer with
    | none => exact Shows.nil
    | some w => exact w.shows (by simp)
  cases o with
  | plain => exact Shows.nil
  | inner w => exact w.shows (by simp)
  | left w outer => exact (w.shows (by simp)).append (houter outer)
  | right w outer => exact (w.shows (by simp)).append (houter outer)

/-- The keywords that a join can show. -/
def joinKeywords : List Keyword := [.INNER, .LEFT, .RIGHT, .OUTER, .JOIN, .ON]

theorem JoinPhrase.shows (j : JoinPhrase) : Shows joinKeywords j.tokens := by
  have hsign : Shows joinKeywords [j.sign] := by
    unfold sign
    cases j.doubled <;> exact shows_symbol (by decide) (by decide)
  exact (j.opening.shows.mono (by simp [joinKeywords])).append
    ((j.join.shows (by simp [joinKeywords])).append ((Shows.blanks _).append
      (j.table.item.shows.append ((j.on.shows (by simp [joinKeywords])).append
        ((Spaced.shows Reference.shows j.left).append ((Shows.blanks _).append
          (hsign.append (Spaced.shows Reference.shows j.right))))))))

/-- A reference ends where no point follows. -/
theorem readReference_tokens (clause : Clause) (r : Spaced Reference) {rest : List Token}
    (hrest : rest.head? ≠ some (.symbol .period)) :
    readReference clause (r.tokens Reference.tokens ++ rest) = .ok (r.item.name, rest) := by
  obtain ⟨gap, ⟨table, column⟩⟩ := r
  cases table with
  | none =>
    have hname : readName clause (blanks gap ++ column.token :: rest) = .ok (column.name, rest) :=
      readName_cons clause gap column.text none rest
    have htokens : Spaced.tokens Reference.tokens ⟨gap, ⟨none, column⟩⟩ ++ rest =
        blanks gap ++ column.token :: rest := by simp [Spaced.tokens, Reference.tokens]
    rw [htokens, readReference, hname]
    cases rest with
    | nil => rfl
    | cons t rest =>
      have ht : t ≠ .symbol .period := by simpa using hrest
      split
      · simp_all
      · simp_all
      · simp_all [Reference.name]
  | some t =>
    have htable : readName clause (blanks gap ++ t.token :: .symbol .period :: column.token :: rest) =
        .ok (t.name, .symbol .period :: column.token :: rest) :=
      readName_cons clause gap t.text none _
    have hcolumn : readName clause (column.token :: rest) = .ok (column.name, rest) :=
      readName_cons clause 0 column.text none rest
    have htokens : Spaced.tokens Reference.tokens ⟨gap, ⟨some t, column⟩⟩ ++ rest =
        blanks gap ++ t.token :: .symbol .period :: column.token :: rest := by
      simp [Spaced.tokens, Reference.tokens]
    rw [htokens, readReference, htable]
    simp only [hcolumn]
    rfl

/-- The opening of a join tells its kind; `JOIN` itself is left to be read. -/
theorem readJoinKind?_tokens (o : JoinOpening) (w : Written .JOIN) (n : Nat)
    (rest : List Token) : readJoinKind? (o.tokens ++ (blanks n ++ w.token :: rest)) =
      some (o.kind, blanks n ++ w.token :: rest) := by
  have hjoin : ∀ k, k ≠ .JOIN → eatKeyword k (blanks n ++ w.token :: rest) = none :=
    fun k hk => eatKeyword_eq_none rfl (w.isKeyword_eq_false hk.symm) n rest
  have hword : ∀ {k : Keyword} (v : Written k) (ts : List Token),
      v.tokens ++ ts = blanks v.gap ++ v.token :: ts := by
    intro k v ts
    simp [Written.tokens]
  have houter : ∀ outer : Option (Written .OUTER),
      (eatKeyword .OUTER (outer.elim [] Written.tokens ++ (blanks n ++ w.token :: rest))).getD
        (outer.elim [] Written.tokens ++ (blanks n ++ w.token :: rest)) =
          blanks n ++ w.token :: rest := by
    intro outer
    cases outer with
    | none => simp [hjoin]
    | some v => simp [hword, eatKeyword_cons v.isKeyword]
  cases o with
  | plain =>
    have hsome := eatKeyword_cons w.isKeyword n rest
    simp [readJoinKind?, JoinOpening.tokens, JoinOpening.kind, hjoin, hsome]
  | inner v =>
    simp [readJoinKind?, JoinOpening.tokens, JoinOpening.kind, hword, eatKeyword_cons v.isKeyword]
  | left v outer =>
    have hinner : ∀ ts, eatKeyword .INNER (blanks v.gap ++ v.token :: ts) = none :=
      eatKeyword_eq_none rfl (v.isKeyword_eq_false (by decide)) _
    simp [readJoinKind?, JoinOpening.tokens, JoinOpening.kind, hword, hinner,
      eatKeyword_cons v.isKeyword, houter]
  | right v outer =>
    have hinner : ∀ ts, eatKeyword .INNER (blanks v.gap ++ v.token :: ts) = none :=
      eatKeyword_eq_none rfl (v.isKeyword_eq_false (by decide)) _
    have hleft : ∀ ts, eatKeyword .LEFT (blanks v.gap ++ v.token :: ts) = none :=
      eatKeyword_eq_none rfl (v.isKeyword_eq_false (by decide)) _
    simp [readJoinKind?, JoinOpening.tokens, JoinOpening.kind, hword, hinner, hleft,
      eatKeyword_cons v.isKeyword, houter]

theorem expectEquality_cons (j : JoinPhrase) (rest : List Token) :
    expectEquality (blanks j.gap ++ j.sign :: rest) = .ok rest := by
  rw [expectEquality, skipBlanks_blanks, skipBlanks_cons rfl]
  unfold JoinPhrase.sign
  cases j.doubled <;> rfl

theorem head?_blanks_append {n : Nat} {t : Token} (ht : t ≠ .symbol .period) (rest : List Token) :
    (blanks n ++ t :: rest).head? ≠ some (.symbol .period) := by
  cases n with
  | zero => simpa [blanks] using ht
  | succ n => simp [blanks, List.replicate_succ]

/-- **A join is read as it is written.** -/
theorem readJoin_tokens (j : JoinPhrase) (n : Nat) :
    readJoin (j.tokens ++ blanks n) = .ok (some j.spec, blanks n) := by
  have hend : (blanks n).head? ≠ some (.symbol .period) := by
    cases n <;> simp [blanks, List.replicate_succ]
  have hsign : j.sign ≠ .symbol .period := by
    unfold JoinPhrase.sign
    cases j.doubled <;> simp
  have htokens : j.tokens ++ blanks n = j.opening.tokens ++ (blanks j.join.gap ++ j.join.token ::
      (blanks j.table.gap ++ j.table.item.token :: (blanks j.on.gap ++ j.on.token ::
        (j.left.tokens Reference.tokens ++ (blanks j.gap ++ j.sign ::
          (j.right.tokens Reference.tokens ++ blanks n)))))) := by
    simp [JoinPhrase.tokens, Written.tokens]
  have htable : ∀ rest, readName .join (blanks j.table.gap ++ j.table.item.token :: rest) =
      .ok (j.table.item.name, rest) := fun rest => readName_cons ..
  rw [htokens, readJoin, readJoinKind?_tokens]
  simp only [expectKeyword_cons _ j.join.isKeyword, htable, expectKeyword_cons _ j.on.isKeyword,
    readReference_tokens _ j.left (head?_blanks_append hsign _), expectEquality_cons,
    readReference_tokens _ j.right hend, bind, Except.bind]
  rfl

theorem readJoin_blanks (n : Nat) : readJoin (blanks n) = .ok (none, blanks n) := by
  have hnone : readJoinKind? (blanks n) = none := by
    simp [readJoinKind?, eatKeyword_blanks]
  rw [readJoin, hnone]

end Sql
end Tabular
