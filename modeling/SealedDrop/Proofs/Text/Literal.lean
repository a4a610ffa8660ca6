/-
  SealedDrop.Proofs.Text.Literal
  ──────────────────────────────
  **WHERE A TEXT IS CUT.**

  `startsWith` holds of a text iff the text is the literal with something behind
  it, and `removeLiteral` and `trim` leave a text as it is that has none of the
  signs they look for.

  Main results:
    • `dropLiteral?_eq_some_iff`, `startsWith_iff`, `endsWith_iff` — the cuts behind
      and before a literal,
    • `removeLiteral_of_not_mem`, `trim_of_not_mem` — nothing to cut.
-/
import SealedDrop.Text.Basic

namespace SealedDrop.Text

/-- **A literal is cut off a text iff the text is the literal with the rest behind it.** -/
theorem dropLiteral?_eq_some_iff {lit t rest : Text} :
    dropLiteral? lit t = some rest ↔ t = lit ++ rest := by
  unfold dropLiteral?
  induction lit generalizing t with
  | nil => exact Option.some_inj
  | cons a lit ih =>
    cases t with
    | nil => exact ⟨nofun, nofun⟩
    | cons b t =>
      unfold dropLiteral?.go
      by_cases hab : a = b
      · rw [if_pos hab, ih, hab]
        exact (List.cons_inj_right b).symm
      · rw [if_neg hab]
        exact ⟨nofun, fun h => absurd (List.cons.inj h).1.symm hab⟩

theorem startsWith_iff {lit t : Text} : startsWith t lit = true ↔ lit <+: t := by
  unfold startsWith
  rw [Option.isSome_iff_exists]
  exact exists_congr fun rest => dropLiteral?_eq_some_iff.trans eq_comm

theorem endsWith_iff {lit t : Text} : endsWith t lit = true ↔ lit <:+ t := by
  unfold endsWith
  rw [startsWith_iff, List.reverse_prefix]

/-- Nothing is removed from a text without the first sign of a literal. -/
theorem removeLiteral_of_not_mem {a : CodePoint} {lit t : Text} (ht : ∀ c ∈ t, c ≠ a) :
    removeLiteral (a :: lit) t = t := by
  -- on the rest of the text; nothing is being skipped
  have hgo : ∀ t : Text, (∀ c ∈ t, c ≠ a) → removeLiteral.go (a :: lit) t 0 = t := by
    intro t
    induction t with
    | nil =>
      intro _
      rfl
    | cons c r ih =>
      intro ht
      have hc : a ≠ c := fun h => ht c List.mem_cons_self h.symm
      have hstart : startsWith (c :: r) (a :: lit) = false := by
        unfold startsWith dropLiteral? dropLiteral?.go
        rw [if_neg hc]
        rfl
      unfold removeLiteral.go
      rw [hstart, if_neg (by simp), ih fun x hx => ht x (List.mem_cons_of_mem _ hx)]
  unfold removeLiteral
  rw [if_neg (by simp)]
  exact hgo t ht

/-- Nothing is trimmed from a text without the signs to trim. -/
theorem trim_of_not_mem {p : CodePoint → Bool} {t : Text} (ht : ∀ c ∈ t, p c = false) :
    trim p t = t := by
  have hfront : ∀ u : Text, (∀ c ∈ u, p c = false) → u.dropWhile p = u := by
    intro u hu
    cases u with
    | nil => rfl
    | cons c r => rw [List.dropWhile_cons, hu c List.mem_cons_self, if_neg (by simp)]
  unfold trim
  rw [hfront t ht, hfront t.reverse fun c hc => ht c (List.mem_reverse.mp hc), List.reverse_reverse]

end SealedDrop.Text
