/-
# Text between dollar signs

`$$ text $$` and `$tag$ text $tag$` are strings without escapes; they print as written.  Between
plain dollar signs a single one is text.  Between tags a dollar sign that does not start the
closing tag is text together with the characters compared with the tag, the first differing one
included, and the search goes on behind them.
-/
import Tabular.Sql.Quoted

namespace Tabular
namespace Sql

/-- The text up to the next two dollar signs in a row. -/
def scanDollars : List Char → Option Scanned
  | [] => none
  | c :: cs =>
    if c = '$' ∧ cs.head? = some '$' then some ([], cs.tail)
    else (scanDollars cs).map (push c)

theorem scanDollars_suffix {cs text rest : List Char}
    (h : scanDollars cs = some (text, rest)) : rest <:+ cs := by
  fun_induction scanDollars cs generalizing text with
  | case1 => simp at h
  | case2 c cs hc =>
    obtain ⟨rfl, rfl⟩ : [] = text ∧ cs.tail = rest := by simpa using h
    exact (List.tail_suffix _).trans (List.suffix_cons _ _)
  | case3 c cs hc ih =>
    obtain ⟨s, hs⟩ := exists_of_map_push h
    exact (ih hs).trans (List.suffix_cons _ _)

/-- What stands behind a dollar sign: the closing tag, something else, or the end. -/
inductive Closing where
  | closed (rest : List Char)
  | differs (compared rest : List Char)
  | ended
  deriving DecidableEq, Repr

/-- Puts a character in front of those compared. -/
def Closing.push (c : Char) : Closing → Closing
  | differs compared rest => differs (c :: compared) rest
  | other => other

/-- Compares a text with a tag and a dollar sign, up to the first difference. -/
def compareTag : List Char → List Char → Closing
  | [], cs => if cs.head? = some '$' then .closed cs.tail else .differs [] cs
  | _ :: _, [] => .ended
  | t :: ts, c :: cs => if c = t then (compareTag ts cs).push c else .differs [c] cs

theorem compareTag_suffix (tag cs : List Char) :
    (∀ rest, compareTag tag cs = .closed rest → rest <:+ cs) ∧
      ∀ compared rest, compareTag tag cs = .differs compared rest → rest <:+ cs := by
  fun_induction compareTag tag cs with
  | case1 cs h =>
    constructor
    · rintro rest e; cases e; exact List.tail_suffix _
    · rintro _ _ e; cases e
  | case2 cs h =>
    constructor
    · rintro rest e; cases e
    · rintro _ _ e; cases e; exact List.suffix_rfl
  | case3 => exact ⟨by rintro _ ⟨⟩, by rintro _ _ ⟨⟩⟩
  | case4 ts c cs ih =>
    constructor
    · intro rest e
      cases hc : compareTag ts cs with
      | closed r =>
        rw [hc] at e; cases e
        exact (ih.1 _ hc).trans (List.suffix_cons _ _)
      | differs d r => rw [hc] at e; cases e
      | ended => rw [hc] at e; cases e
    · intro compared rest e
      cases hc : compareTag ts cs with
      | closed r => rw [hc] at e; cases e
      | differs d r =>
        rw [hc] at e; cases e
        exact (ih.2 _ _ hc).trans (List.suffix_cons _ _)
      | ended => rw [hc] at e; cases e
  | case5 t ts c cs h =>
    constructor
    · rintro rest e; cases e
    · rintro _ _ e; cases e; exact List.suffix_cons _ _

/-- The text up to the closing tag. -/
def scanTagged (tag : List Char) : List Char → Option Scanned
  | [] => none
  | c :: cs =>
    if c = '$' then
      match h : compareTag tag cs with
      | .closed rest => some ([], rest)
      | .differs compared rest =>
        have := ((compareTag_suffix tag cs).2 _ _ h).length_le
        (scanTagged tag rest).map fun s => (c :: (compared ++ s.1), s.2)
      | .ended => none
    else (scanTagged tag cs).map (push c)
termination_by cs => cs.length

theorem scanTagged_suffix {tag cs text rest : List Char}
    (h : scanTagged tag cs = some (text, rest)) : rest <:+ cs := by
  fun_induction scanTagged tag cs generalizing text with
  | case1 => simp at h
  | case2 cs r hr =>
    obtain ⟨rfl, rfl⟩ : [] = text ∧ r = rest := by simpa using h
    exact ((compareTag_suffix _ _).1 _ hr).trans (List.suffix_cons _ _)
  | case3 cs compared r hr hlt ih =>
    obtain ⟨⟨s, r'⟩, hs, he⟩ := Option.map_eq_some_iff.mp h
    obtain ⟨_, rfl⟩ : _ ∧ r' = rest := by simpa using he
    exact ((ih hs).trans ((compareTag_suffix _ _).2 _ _ hr)).trans (List.suffix_cons _ _)
  | case4 => simp at h
  | case5 c cs hc ih =>
    obtain ⟨s, hs⟩ := exists_of_map_push h
    exact (ih hs).trans (List.suffix_cons _ _)

end Sql
end Tabular
