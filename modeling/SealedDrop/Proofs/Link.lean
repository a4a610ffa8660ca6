/-
  SealedDrop.Proofs.Link
  ──────────────────────
  **A LINK LEADS TO ITS ID.**

  `Link.toId` cuts a text with `Text.stripRight` and `Text.afterLast`, which
  both look at it from behind, so the lemmas turn the text around once and then
  work at its head.  Each of the two cuts has a law that puts the text together
  again, so whatever a text is, its id is the last segment of it, slashes at the
  end aside (`exists_segment`).

  Main results:
    • `stripRight_append`, `afterLast_append` — the two cuts at the end of a text,
    • `toId_ofId` — the id in the link of an id is that id,
    • `links_and_ids_convert` — links and ids, with any slashes around them.
-/
import Mathlib.Data.List.TakeWhile
import SealedDrop.Link

namespace SealedDrop

/-! ## §1. Cuts at the end of a text -/

/-- Nothing is stripped behind a text that holds no such sign. -/
theorem Text.stripRight_append {c : CodePoint} (t : Text) {u : Text} (hne : u ≠ [])
    (hu : ∀ x ∈ u, x ≠ c) : stripRight c (t ++ u) = t ++ u := by
  unfold stripRight
  rw [List.reverse_append]
  cases hrev : u.reverse with
  | nil => exact absurd (List.reverse_eq_nil_iff.mp hrev) hne
  | cons x r =>
    have hx : x ≠ c := hu x (List.mem_reverse.mp (hrev ▸ List.mem_cons_self))
    rw [List.cons_append, List.dropWhile_cons, if_neg (by simpa using hx), ← List.cons_append,
      ← hrev, ← List.reverse_append, List.reverse_reverse]

/-- What follows the last such sign is what holds none. -/
theorem Text.afterLast_append {c : CodePoint} (t : Text) {u : Text} (hu : ∀ x ∈ u, x ≠ c) :
    afterLast c (t ++ c :: u) = u := by
  have hall : ∀ x ∈ u.reverse, decide (x ≠ c) = true := by
    intro x hx
    rw [decide_eq_true_eq]
    exact hu x (List.mem_reverse.mp hx)
  unfold afterLast
  rw [List.reverse_append, List.reverse_cons, List.append_assoc,
    List.takeWhile_append_of_pos hall, List.singleton_append, List.takeWhile_cons,
    if_neg (by simp), List.append_nil, List.reverse_reverse]

/-- Such signs behind a text are stripped, however many they are. -/
theorem Text.stripRight_append_replicate (c : CodePoint) (t : Text) (n : Nat) :
    stripRight c (t ++ List.replicate n c) = stripRight c t := by
  have hall : ∀ x ∈ List.replicate n c, decide (x = c) = true := by
    intro x hx
    exact decide_eq_true (List.eq_of_mem_replicate hx)
  unfold stripRight
  rw [List.reverse_append, List.reverse_replicate, List.dropWhile_append_of_pos hall]

/-- What was stripped behind a text are such signs. -/
theorem Text.exists_stripped (c : CodePoint) (t : Text) :
    ∃ n, t = stripRight c t ++ List.replicate n c := by
  have hsigns : t.reverse.takeWhile (· = c)
      = List.replicate (t.reverse.takeWhile (· = c)).length c := by
    refine List.eq_replicate_of_mem fun x hx => ?_
    have hx := List.mem_takeWhile_imp hx
    exact of_decide_eq_true hx
  refine ⟨(t.reverse.takeWhile (· = c)).length, ?_⟩
  calc t = (t.reverse.takeWhile (· = c) ++ t.reverse.dropWhile (· = c)).reverse := by
        rw [List.takeWhile_append_dropWhile, List.reverse_reverse]
    _ = stripRight c t ++ (t.reverse.takeWhile (· = c)).reverse := List.reverse_append
    _ = stripRight c t ++ List.replicate (t.reverse.takeWhile (· = c)).length c := by
        rw [hsigns, List.reverse_replicate, List.length_replicate]

/-- Nothing is stripped off a text without such signs. -/
theorem Text.stripRight_of_not_mem {c : CodePoint} {t : Text} (h : c ∉ t) : stripRight c t = t := by
  cases t with
  | nil => rfl
  | cons x t =>
    refine stripRight_append [] (List.cons_ne_nil x t) fun y hy => ?_
    rintro rfl
    exact h hy

/-- What follows the last such sign holds none. -/
theorem Text.not_mem_afterLast (c : CodePoint) (t : Text) : c ∉ afterLast c t := by
  intro h
  have hother := List.mem_takeWhile_imp (List.mem_reverse.mp h)
  exact of_decide_eq_true hother rfl

/-- Before it stands such a sign, or nothing. -/
theorem Text.exists_before (c : CodePoint) (t : Text) :
    ∃ front, t = front ++ afterLast c t ∧ (front = [] ∨ front.getLast? = some c) := by
  refine ⟨(t.reverse.dropWhile (· ≠ c)).reverse, ?_, ?_⟩
  · unfold afterLast
    rw [← List.reverse_append, List.takeWhile_append_dropWhile, List.reverse_reverse]
  · cases hrest : t.reverse.dropWhile (· ≠ c) with
    | nil => exact .inl rfl
    | cons x r =>
      -- the first sign that is not passed over is the one looked for
      have hstop := List.head?_dropWhile_not (fun x => decide (x ≠ c)) t.reverse
      rw [hrest] at hstop
      have hx : x = c := by simpa using hstop
      rw [hx, List.reverse_cons, List.getLast?_concat]
      exact .inr rfl

/-- A text without such signs is what follows the last of none. -/
theorem Text.afterLast_of_not_mem {c : CodePoint} {t : Text} (h : c ∉ t) : afterLast c t = t := by
  obtain ⟨front, ht, hfront⟩ := exists_before c t
  rcases hfront with rfl | hfront
  · exact ht.symm
  · refine absurd ?_ h
    rw [ht]
    exact List.mem_append_left _ (List.mem_of_getLast? hfront)

/-! ## §2. Links -/

/-- **The id in the link of an id is that id**, whatever the public address is. -/
theorem Link.toId_ofId (publicUrl : Text) {id : Text} (hne : id ≠ []) (hid : ∀ x ∈ id, x ≠ slash) :
    toId (ofId publicUrl id) = id := by
  unfold toId ofId
  rw [Text.stripRight_append _ hne hid]
  -- the fixed path of a link ends in a slash
  rw [show Text.ofString "/secret-sharing/" = Text.ofString "/secret-sharing" ++ [slash] from rfl,
    ← List.append_assoc, List.append_assoc, List.singleton_append]
  exact Text.afterLast_append _ hid

namespace Link

/-- So many slashes. -/
def slashes (n : Nat) : Text := List.replicate n slash

theorem toId_append_slashes (x : Text) (n : Nat) : toId (x ++ slashes n) = toId x := by
  unfold toId slashes
  rw [Text.stripRight_append_replicate]

theorem ofId_append_slashes (publicUrl id : Text) (n : Nat) :
    ofId (publicUrl ++ slashes n) id = ofId publicUrl id := by
  unfold ofId slashes
  rw [Text.stripRight_append_replicate]

theorem slash_not_mem_toId (x : Text) : slash ∉ toId x := Text.not_mem_afterLast _ _

theorem toId_of_not_mem {x : Text} (h : slash ∉ x) : toId x = x := by
  unfold toId
  rw [Text.stripRight_of_not_mem h, Text.afterLast_of_not_mem h]

/-- **The id of a text is its last segment**, slashes at the end aside. -/
theorem exists_segment (x : Text) :
    ∃ front n, x = front ++ toId x ++ slashes n ∧ (front = [] ∨ front.getLast? = some slash) := by
  obtain ⟨n, hx⟩ := Text.exists_stripped slash x
  obtain ⟨front, hstripped, hfront⟩ := Text.exists_before slash (Text.stripRight slash x)
  refine ⟨front, n, ?_, hfront⟩
  calc x = Text.stripRight slash x ++ slashes n := hx
    _ = front ++ toId x ++ slashes n := congrArg (· ++ slashes n) hstripped

/-- **Links and ids convert back and forth.**  The id in a link is the id that the link was made of,
whatever the public address is and however many slashes follow the link; slashes behind the public
address make no difference to the link; and the id of any text is its last segment, without a slash,
and the id of itself. -/
theorem links_and_ids_convert :
    (∀ (publicUrl id : Text) (n : Nat), id ≠ [] → slash ∉ id →
      toId (ofId publicUrl id ++ slashes n) = id)
    ∧ (∀ (publicUrl id : Text) (n : Nat), ofId (publicUrl ++ slashes n) id = ofId publicUrl id)
    ∧ ∀ x : Text, slash ∉ toId x ∧ toId (toId x) = toId x
      ∧ ∃ front n, x = front ++ toId x ++ slashes n
        ∧ (front = [] ∨ front.getLast? = some slash) := by
  refine ⟨?back, ofId_append_slashes, ?segment⟩
  case back =>
    intro publicUrl id n hne hid
    rw [toId_append_slashes]
    refine toId_ofId publicUrl hne fun x hx => ?_
    rintro rfl
    exact hid hx
  case segment =>
    intro x
    exact ⟨slash_not_mem_toId x, toId_of_not_mem (slash_not_mem_toId x), exists_segment x⟩

/-- An address of nothing but slashes, a link with slashes behind it, and an id that is half of a
surrogate pair. -/
theorem links_and_ids_convert_surrogate :
    let id : Text := [0xD800]
    toId (ofId "//" id ++ slashes 2) = id ∧ ofId "//" id = "/secret-sharing/" ++ id
      ∧ toId (toId "//a//") = "a" ∧ toId "///" = [] := by
  intro id
  obtain ⟨hback, hpublic, hsegment⟩ := links_and_ids_convert
  refine ⟨hback "//" id 2 (by decide) (by decide), hpublic [] id 2, ?_, by decide⟩
  rw [(hsegment "//a//").2.1]
  decide

end Link

end SealedDrop
