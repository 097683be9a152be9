import GuiExplorer.Screen
import Mathlib.Data.List.Sort

/-!
# The fingerprint of a screen

A screen is hashed as the sorted identities of its widgets, one after another.  That string
tells exactly which identities there are and how often: it stays the same when widgets are put
in another order, and becomes another one with every identity that is added, removed or replaced.
-/

namespace GuiExplorer

namespace Sha1

/-- Absorb so many blocks. -/
def absorbBlocks : (count : Nat) → State → List UInt32 → State
  | 0, state, _ => state
  | count + 1, state, words => absorbBlocks count (absorb state (words.take 16)) (words.drop 16)

/-- How many blocks there are is known in advance, so that a digest can be evaluated. -/
theorem absorbAll_eq_absorbBlocks (state : State) (words : List UInt32) :
    absorbAll state words = absorbBlocks (words.length / 16) state words := by
  fun_induction absorbAll state words with
  | case1 state words short => rw [Nat.div_eq_of_lt short, absorbBlocks]
  | case2 state words long ih =>
      have count : words.length / 16 = (words.length - 16) / 16 + 1 := by omega
      rw [ih, List.length_drop, count, absorbBlocks]

end Sha1

namespace Uuid

theorem bytes_injective : Function.Injective bytes :=
  fun _ _ same => ext same

/-- The name-based identifiers of two byte strings do not collide. -/
def TellsApart (left right : List UInt8) : Prop :=
  ofName left = ofName right → left = right

theorem TellsApart.ofName_eq_iff {left right : List UInt8} (apart : TellsApart left right) :
    ofName left = ofName right ↔ left = right :=
  ⟨apart, congrArg ofName⟩

theorem bytes_append_ne_nil (id : Uuid) (more : List UInt8) : id.bytes ++ more ≠ [] := by
  intro empty
  have size := id.size_eq
  rw [(List.append_eq_nil_iff.mp empty).1] at size
  cases size

/-- Identifiers that are written one after another are read back: each takes as many bytes. -/
theorem flatMap_bytes_injective : Function.Injective fun ids : List Uuid => ids.flatMap bytes := by
  intro left right same
  dsimp only at same
  induction left generalizing right with
  | nil =>
      cases right with
      | nil => rfl
      | cons other more => exact absurd same.symm (bytes_append_ne_nil other _)
  | cons id rest ih =>
      cases right with
      | nil => exact absurd same (bytes_append_ne_nil id _)
      | cons other more =>
          rw [List.flatMap_cons, List.flatMap_cons] at same
          obtain ⟨head, tail⟩ := List.append_inj same (id.size_eq.trans other.size_eq.symm)
          rw [bytes_injective head, ih tail]

theorem pairwise_mergeSort (ids : List Uuid) :
    (ids.mergeSort fun left right => decide (left ≤ right)).Pairwise (· ≤ ·) := by
  refine (List.pairwise_mergeSort ?_ ?_ ids).imp of_decide_eq_true
  · intro first second third former latter
    exact decide_eq_true (List.le_trans (of_decide_eq_true former) (of_decide_eq_true latter))
  · intro left right
    rw [Bool.or_eq_true, decide_eq_true_iff, decide_eq_true_iff]
    exact List.le_total left.bytes right.bytes

/-- Sorting leaves nothing of the order. -/
theorem mergeSort_eq_iff_perm {left right : List Uuid} :
    (left.mergeSort fun earlier later => decide (earlier ≤ later)) =
        (right.mergeSort fun earlier later => decide (earlier ≤ later)) ↔
      left.Perm right := by
  have sorted (ids : List Uuid) := List.mergeSort_perm ids fun earlier later =>
    decide (earlier ≤ later)
  constructor
  · intro same
    exact (sorted left).symm.trans (same ▸ sorted right)
  · intro permuted
    refine List.Perm.eq_of_pairwise ?_ (pairwise_mergeSort left) (pairwise_mergeSort right)
      ((sorted left).trans (permuted.trans (sorted right).symm))
    intro id other _ _ below above
    exact ext (List.le_antisymm below above)

end Uuid

namespace Identity

/-- The byte string of a screen tells which identities there are and how often, and nothing
more. -/
theorem screenBytes_eq_iff_perm {left right : List Uuid} :
    screenBytes left = screenBytes right ↔ left.Perm right :=
  Uuid.flatMap_bytes_injective.eq_iff.trans Uuid.mergeSort_eq_iff_perm

theorem screenBytes_of_sorted {ids : List Uuid} (sorted : ids.Pairwise (· ≤ ·)) :
    screenBytes ids = ids.flatMap Uuid.bytes := by
  rw [screenBytes, List.mergeSort_of_pairwise (sorted.imp decide_eq_true)]

/-- One identity is added, removed or replaced. -/
inductive Edited : List Uuid → List Uuid → Prop where
  | added (before : List Uuid) (id : Uuid) (after : List Uuid) :
      Edited (before ++ after) (before ++ id :: after)
  | removed (before : List Uuid) (id : Uuid) (after : List Uuid) :
      Edited (before ++ id :: after) (before ++ after)
  | replaced (before : List Uuid) {old new : Uuid} (after : List Uuid) (other : old ≠ new) :
      Edited (before ++ old :: after) (before ++ new :: after)

theorem Edited.not_perm {left right : List Uuid} (edited : Edited left right) :
    ¬ left.Perm right := by
  intro permuted
  cases edited with
  | added before id after => simpa using permuted.length_eq
  | removed before id after => simpa using permuted.length_eq
  | @replaced before old new after other =>
      have rest : ([old] ++ after).Perm ([new] ++ after) :=
        (List.perm_append_left_iff before).mp permuted
      exact other (List.singleton_perm_singleton.mp ((List.perm_append_right_iff after).mp rest))

end Identity

namespace Screen

/-- The byte string that is hashed for a screen with these widgets. -/
def hashed (widgets : List Widget) : List UInt8 :=
  Identity.screenBytes (widgets.map Widget.uid)

theorem uid_ofWidgets (widgets : List Widget) :
    (ofWidgets widgets).uid = Uuid.ofName (hashed widgets) :=
  rfl

/-- The string that is hashed for a list of identities is that of another list exactly if the two
are permutations of each other.  So widgets in another order are the same screen, while an
identity that is added, removed or replaced changes the string, and with it the identifier of the
screen, unless the identifiers of the two strings collide. -/
theorem fingerprint_is_faithful :
    (∀ left right : List Uuid,
      Identity.screenBytes left = Identity.screenBytes right ↔ left.Perm right) ∧
    ∀ left right : List Widget,
      (left.Perm right → (ofWidgets left).uid = (ofWidgets right).uid) ∧
      (Uuid.TellsApart (hashed left) (hashed right) →
        ((ofWidgets left).uid = (ofWidgets right).uid ↔
          (left.map Widget.uid).Perm (right.map Widget.uid))) ∧
      (Identity.Edited (left.map Widget.uid) (right.map Widget.uid) →
        hashed left ≠ hashed right ∧
        (Uuid.TellsApart (hashed left) (hashed right) →
          (ofWidgets left).uid ≠ (ofWidgets right).uid)) := by
  refine ⟨fun left right => Identity.screenBytes_eq_iff_perm, fun left right => ?_⟩
  have same : hashed left = hashed right ↔ (left.map Widget.uid).Perm (right.map Widget.uid) :=
    Identity.screenBytes_eq_iff_perm
  refine ⟨fun permuted => ?_, fun apart => ?_, fun edited => ?_⟩
  · rw [uid_ofWidgets, uid_ofWidgets, same.mpr (permuted.map Widget.uid)]
  · rw [uid_ofWidgets, uid_ofWidgets, apart.ofName_eq_iff, same]
  · have changed : hashed left ≠ hashed right := fun equal => edited.not_perm (same.mp equal)
    refine ⟨changed, fun apart => ?_⟩
    rwa [uid_ofWidgets, uid_ofWidgets, Ne, apart.ofName_eq_iff]

/-- A second widget without content, which like the first has the nil identity, makes another
screen. -/
theorem fingerprint_of_second_blank :
    let blank := Widget.ofData {}
    let button := Widget.ofData { text := "OK" }
    blank.uid = Uuid.nil ∧
      (ofWidgets [blank, button]).uid = (ofWidgets [button, blank]).uid ∧
      Identity.Edited ([blank].map Widget.uid) ([blank, blank].map Widget.uid) ∧
      Uuid.TellsApart (hashed [blank]) (hashed [blank, blank]) ∧
      (ofWidgets [blank]).uid ≠ (ofWidgets [blank, blank]).uid := by
  intro blank button
  have edited : Identity.Edited ([blank].map Widget.uid) ([blank, blank].map Widget.uid) :=
    .added [blank.uid] blank.uid []
  have once : hashed [blank] = List.replicate 16 0 :=
    Identity.screenBytes_of_sorted (by decide)
  have twice : hashed [blank, blank] = List.replicate 32 0 :=
    Identity.screenBytes_of_sorted (by decide)
  have apart : Uuid.TellsApart (hashed [blank]) (hashed [blank, blank]) := by
    rw [Uuid.TellsApart, once, twice, Uuid.ofName, Uuid.ofName, Sha1.hash, Sha1.hash,
      Sha1.absorbAll_eq_absorbBlocks, Sha1.absorbAll_eq_absorbBlocks]
    intro collides
    exact absurd collides (by decide +kernel)
  refine ⟨rfl, ?_, edited, apart, ?_⟩
  · exact (fingerprint_is_faithful.2 _ _).1 (.swap button blank [])
  · exact ((fingerprint_is_faithful.2 _ _).2.2 edited).2 apart

end Screen

end GuiExplorer
