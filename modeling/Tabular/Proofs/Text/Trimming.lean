/-
# What trimming leaves

`trim` drops the blanks at both ends of a text, so what it leaves is known by its ends: a text
is left as it is iff neither its first nor its last character is blank (`trim_eq_self_iff`).
Hence trimming twice is trimming once (`trim_trim`), and nothing is left of a text exactly when
it is blank (`trim_eq_nil_iff`).

A name that was trimmed once can therefore be written and read again without change.  The last
section is for names with something behind them: what is behind a character that is not blank is
trimmed by itself (`trim_append`), so that a name comes back only if all behind it is blank.
-/
import Tabular.Text.Blank
import Mathlib.Data.List.TakeWhile

namespace Tabular
namespace Text

/-! ## 1. The ends of a trimmed text -/

theorem head_trimStart (cs : List Char) : ∀ c ∈ (trimStart cs).head?, isBlank c = false := by
  intro c hc
  have h := List.head?_dropWhile_not isBlank cs
  rw [Option.mem_def, trimStart] at hc
  rw [hc] at h
  simpa using h

theorem trimEnd_isPrefix (cs : List Char) : trimEnd cs <+: cs := by
  rw [trimEnd, ← List.reverse_suffix, List.reverse_reverse]
  exact List.dropWhile_suffix _

theorem head_trim (cs : List Char) : ∀ c ∈ (trim cs).head?, isBlank c = false := by
  intro c hc
  obtain ⟨rest, hr⟩ := trimEnd_isPrefix (trimStart cs)
  refine head_trimStart cs c ?_
  rw [← hr]
  change c ∈ (trimEnd (trimStart cs)).head? at hc
  simp only [Option.mem_def] at hc ⊢
  simp [List.head?_append, hc]

theorem last_trim (cs : List Char) : ∀ c ∈ (trim cs).getLast?, isBlank c = false := by
  rw [trim, trimEnd, List.getLast?_reverse]
  exact head_trimStart (trimStart cs).reverse

theorem not_isBlank_of_isDigit {c : Char} (h : c.isDigit = true) : isBlank c = false := by
  have hr : 48 ≤ c.toNat ∧ c.toNat ≤ 57 := by
    simp only [Char.isDigit, Bool.and_eq_true, decide_eq_true_eq, ge_iff_le,
      UInt32.le_iff_toNat_le] at h
    exact h
  have hcases : ∀ n ∈ List.range' 48 10, inRanges n blankRanges = false := by decide
  exact hcases c.toNat (by simp only [List.mem_range'_1]; omega)

/-! ## 2. Texts that trimming leaves alone -/

theorem trimStart_eq_self {cs : List Char} (h : ∀ c ∈ cs.head?, isBlank c = false) :
    trimStart cs = cs := by
  cases cs with
  | nil => rfl
  | cons c cs => simp [trimStart, h c (by simp)]

theorem trimEnd_eq_self {cs : List Char} (h : ∀ c ∈ cs.getLast?, isBlank c = false) :
    trimEnd cs = cs := by
  rw [← List.head?_reverse] at h
  have hs := trimStart_eq_self h
  rw [trimStart] at hs
  rw [trimEnd, hs, List.reverse_reverse]

/-- **A text is left alone iff it has no blank end.** -/
theorem trim_eq_self_iff {cs : List Char} : trim cs = cs ↔
    (∀ c ∈ cs.head?, isBlank c = false) ∧ (∀ c ∈ cs.getLast?, isBlank c = false) := by
  constructor
  · intro h
    rw [← h]
    exact ⟨head_trim cs, last_trim cs⟩
  · rintro ⟨hs, he⟩
    rw [trim, trimStart_eq_self hs, trimEnd_eq_self he]

theorem trim_trim (cs : List Char) : trim (trim cs) = trim cs :=
  trim_eq_self_iff.mpr ⟨head_trim cs, last_trim cs⟩

theorem trimStart_eq_nil_iff {cs : List Char} : trimStart cs = [] ↔ isBlankText cs = true := by
  simp [trimStart, isBlankText, List.dropWhile_eq_nil_iff]

/-- Nothing is left exactly of a blank text. -/
theorem trim_eq_nil_iff {cs : List Char} : trim cs = [] ↔ isBlankText cs = true := by
  rw [← trimStart_eq_nil_iff]
  constructor
  · intro h
    cases hc : trimStart cs with
    | nil => rfl
    | cons c rest =>
      have hblank : isBlank c = false := head_trimStart cs c (by simp [hc])
      have hall : ∀ x ∈ trimStart cs, isBlank x = true := by
        simpa [trim, trimEnd, List.dropWhile_eq_nil_iff] using h
      have := hall c (by simp [hc])
      simp [hblank] at this
  · intro h
    simp [trim, h, trimEnd]

/-! ## 3. Texts with something behind -/

theorem mem_of_mem_trim {cs : List Char} {c : Char} (h : c ∈ trim cs) : c ∈ cs :=
  (List.dropWhile_suffix _).subset ((trimEnd_isPrefix _).subset h)

theorem length_trim_le (cs : List Char) : (trim cs).length ≤ cs.length :=
  le_trans (trimEnd_isPrefix _).length_le (List.dropWhile_suffix _).length_le

theorem length_unquote_le (cs : List Char) : (unquote cs).length ≤ cs.length := by
  unfold unquote
  split
  · exact le_refl _
  · split
    · simp only [List.length_dropLast, List.length_cons]
      omega
    · exact le_refl _

/-- Where nothing is gone after both steps, neither takes anything away. -/
theorem unquote_trim_eq_self_iff {cs : List Char} :
    unquote (trim cs) = cs ↔ trim cs = cs ∧ unquote cs = cs := by
  constructor
  · intro h
    have hlen : (trim cs).length = cs.length := by
      have hunquote := length_unquote_le (trim cs)
      have htrim := length_trim_le cs
      rw [h] at hunquote
      omega
    have htrim : trim cs = cs :=
      ((trimEnd_isPrefix _).sublist.trans (List.dropWhile_sublist _)).eq_of_length hlen
    exact ⟨htrim, by rwa [htrim] at h⟩
  · rintro ⟨htrim, hunquote⟩
    rw [htrim, hunquote]

theorem mem_dropWhile_of_not {cs : List Char} {c : Char} (h : c ∈ cs) (hc : isBlank c = false) :
    c ∈ cs.dropWhile isBlank := by
  rw [← List.takeWhile_append_dropWhile (p := isBlank) (l := cs), List.mem_append] at h
  rcases h with h | h
  · have := List.mem_takeWhile_imp h
    simp [hc] at this
  · exact h

/-- Only blanks are trimmed away. -/
theorem mem_trim_of_not_isBlank {cs : List Char} {c : Char} (h : c ∈ cs)
    (hc : isBlank c = false) : c ∈ trim cs := by
  rw [trim, trimEnd, List.mem_reverse]
  exact mem_dropWhile_of_not (List.mem_reverse.mpr (mem_dropWhile_of_not h hc)) hc

theorem isBlankText_eq_false_of_mem {cs : List Char} {c : Char} (h : c ∈ cs)
    (hc : isBlank c = false) : isBlankText cs = false := by
  rw [isBlankText, List.all_eq_false]
  exact ⟨c, h, by simp [hc]⟩

theorem trimEnd_eq_nil_iff {cs : List Char} : trimEnd cs = [] ↔ isBlankText cs = true := by
  simp [trimEnd, isBlankText, List.dropWhile_eq_nil_iff]

/-- **What is behind is trimmed by itself**, if there is no blank before it. -/
theorem trim_append {cs : List Char} (hne : cs ≠ [])
    (h : ∀ c ∈ cs.getLast?, isBlank c = false) (rest : List Char) :
    trim (cs ++ rest) = trimStart cs ++ trimEnd rest := by
  have hlast := h _ (List.getLast?_eq_some_getLast hne)
  have hstart : trimStart cs ≠ [] := by
    rw [ne_eq, trimStart_eq_nil_iff,
      isBlankText_eq_false_of_mem (List.getLast_mem hne) hlast]
    simp
  have hfront : trimStart (cs ++ rest) = trimStart cs ++ rest := by
    unfold trimStart at hstart ⊢
    rw [List.dropWhile_append, if_neg (by simpa using hstart)]
  have hkeep : trimEnd (trimStart cs) = trimStart cs := by
    refine trimEnd_eq_self ?_
    intro c hc
    obtain ⟨front, hf⟩ : trimStart cs <:+ cs := List.dropWhile_suffix _
    refine h c ?_
    rw [← hf, List.getLast?_append, Option.mem_def.mp hc]
    rfl
  rw [trim, hfront]
  unfold trimEnd at hkeep ⊢
  rw [List.reverse_append, List.dropWhile_append]
  split
  · rename_i hblank
    rw [List.isEmpty_iff] at hblank
    rw [hkeep, hblank, List.reverse_nil, List.append_nil]
  · rw [List.reverse_append, List.reverse_reverse]

end Text
end Tabular
