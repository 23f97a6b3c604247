/-
**Linear scans of a table.**

`scanPrefer` is the one-pass search that returns the first preferred entry at once and otherwise
the first acceptable one it passed; `scanPrefer_eq` says that the pass computes the two searches one
after the other. `find?_finRange_eq_some` is the first-match law of a search over a table indexed by
`Fin count`.
-/

import Mathlib.Data.Fin.Tuple.Basic

namespace TinyHan.Lib

section Prefer

variable {α : Type} (prefer accept : α → Bool)

/-- One pass over the remaining entries, with the acceptable entry met so far. -/
def scanPrefer : List α → Option α → Option α
  | [], fallback => fallback
  | entry :: rest, fallback =>
      if prefer entry then some entry
      else scanPrefer rest (if fallback.isNone && accept entry then some entry else fallback)

/-- **The pass is two searches**: a preferred entry first, then the fallback met before the pass,
then an acceptable entry. -/
theorem scanPrefer_eq (entries : List α) (fallback : Option α) :
    scanPrefer prefer accept entries fallback =
      (entries.find? prefer).or (fallback.or (entries.find? accept)) := by
  induction entries generalizing fallback with
  | nil => simp [scanPrefer]
  | cons entry rest ih =>
      by_cases preferred : prefer entry = true
      · simp [scanPrefer, preferred]
      · rw [scanPrefer, if_neg preferred, ih, List.find?_cons_of_neg preferred]
        cases fallback with
        | some earlier => simp
        | none =>
            by_cases acceptable : accept entry = true
            · simp [acceptable]
            · rw [List.find?_cons_of_neg acceptable]
              simp [acceptable]

end Prefer

section Table

variable {count : Nat} {p : Fin count → Bool}

/-- The search over a table returns the first match. -/
theorem find?_finRange_eq_some {index : Fin count} :
    (List.finRange count).find? p = some index ↔
      p index = true ∧ ∀ earlier, earlier < index → p earlier = false := by
  rw [← Fin.find?_eq_find?_finRange, Fin.find?_eq_some_iff]

end Table

end TinyHan.Lib
