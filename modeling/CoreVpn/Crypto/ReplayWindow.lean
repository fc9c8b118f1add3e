import CoreVpn.Lib.Machine
import Mathlib.Data.Finset.Max

/-!
# The replay window of the data channel

`ReplayWindow::check_and_update` (`corevpn-crypto/src/cipher.rs`) keeps the
highest accepted packet id and a 128-bit bitmap whose bit `n` records whether
`highest - n` was accepted. `ReplaySpec` says what the window is for, with sets
instead of bits: an id is accepted when it is nonzero, has not been accepted
before and is less than the window width below the highest accepted id.

`Tracks` relates a bitmap window to the set it stands for. It is preserved by
every call with equal answers (`tracks_step`), so the window refines the
specification over every sequence of ids, and what a run of the window answers
is read off the set-based machine (`check_and_update_refines_spec`).
-/

namespace CoreVpn.Crypto

set_option autoImplicit false

/-! ## The model of `ReplayWindow` -/

/-- `struct ReplayWindow`: bit `n` of `bitmap` stands for the id `highest - n`. -/
structure ReplayWindow where
  highest : UInt64
  bitmap : BitVec 128
  deriving DecidableEq, Repr

namespace ReplayWindow

def windowSize : UInt64 := 128

def new : ReplayWindow := ⟨0, 0⟩

/-- `ReplayWindow::check_and_update`: whether the packet is processed, and the window after. -/
def checkAndUpdate (window : ReplayWindow) (packetId : UInt64) : Bool × ReplayWindow :=
  if packetId = 0 then (false, window)
  else if packetId > window.highest then
    let shift := packetId - window.highest
    let bitmap := if shift ≥ windowSize then 1 else (window.bitmap <<< shift.toNat) ||| 1
    (true, { highest := packetId, bitmap := bitmap })
  else
    let diff := window.highest - packetId
    if diff ≥ windowSize then (false, window)
    else
      let mask : BitVec 128 := (1 : BitVec 128) <<< diff.toNat
      if window.bitmap &&& mask ≠ 0 then (false, window)
      else (true, { window with bitmap := window.bitmap ||| mask })

def reset (_window : ReplayWindow) : ReplayWindow := ⟨0, 0⟩

theorem one_shiftLeft (n : ℕ) : (1 : BitVec 128) <<< n = BitVec.twoPow 128 n :=
  (BitVec.twoPow_eq 128 n).symm

@[simp] theorem getLsbD_one_eq (n : ℕ) : (1 : BitVec 128).getLsbD n = decide (n = 0) := by
  simp

theorem getLsbD_shift_or_one (bitmap : BitVec 128) (shift : ℕ) {n : ℕ} (inside : n < 128) :
    ((bitmap <<< shift) ||| 1).getLsbD n =
      (decide (n = 0) || (decide (shift ≤ n) && bitmap.getLsbD (n - shift))) := by
  rw [BitVec.getLsbD_or, BitVec.getLsbD_shiftLeft, getLsbD_one_eq]
  by_cases below : n < shift
  · simp [below, show ¬ shift ≤ n by omega]
  · simp [below, show shift ≤ n by omega, inside, Bool.or_comm]

theorem getLsbD_or_twoPow (bitmap : BitVec 128) {marked : ℕ} (within : marked < 128) (n : ℕ) :
    (bitmap ||| BitVec.twoPow 128 marked).getLsbD n = (bitmap.getLsbD n || decide (marked = n)) := by
  simp [BitVec.getLsbD_twoPow, within]

theorem and_mask_eq_zero (bitmap : BitVec 128) {n : ℕ} (inside : n < 128) :
    bitmap &&& (1 : BitVec 128) <<< n = 0 ↔ bitmap.getLsbD n = false := by
  rw [one_shiftLeft, BitVec.and_twoPow]
  cases bit : bitmap.getLsbD n
  · simp
  · simp only [if_true, Bool.true_eq_false, iff_false]
    intro zero
    have setBit := congrArg (fun vector : BitVec 128 => vector.getLsbD n) zero
    simp [inside] at setBit

theorem checkAndUpdate_zero (window : ReplayWindow) :
    window.checkAndUpdate 0 = (false, window) := by
  simp [checkAndUpdate]

theorem checkAndUpdate_ahead (window : ReplayWindow) {packetId : UInt64}
    (nonzero : packetId ≠ 0) (ahead : window.highest.toNat < packetId.toNat) :
    window.checkAndUpdate packetId =
      (true, { highest := packetId,
               bitmap := if 128 ≤ packetId.toNat - window.highest.toNat then 1
                 else (window.bitmap <<< (packetId.toNat - window.highest.toNat)) ||| 1 }) := by
  have greater : packetId > window.highest := UInt64.lt_iff_toNat_lt.mpr ahead
  have shift : (packetId - window.highest).toNat = packetId.toNat - window.highest.toNat :=
    UInt64.toNat_sub_of_le _ _ (UInt64.le_of_lt greater)
  have wide : (packetId - window.highest ≥ windowSize) ↔
      128 ≤ packetId.toNat - window.highest.toNat := by
    rw [ge_iff_le, UInt64.le_iff_toNat_le, shift]
    rfl
  simp only [checkAndUpdate, nonzero, greater, if_false, if_true, wide, shift]

theorem checkAndUpdate_behind (window : ReplayWindow) {packetId : UInt64}
    (nonzero : packetId ≠ 0) (behind : packetId.toNat ≤ window.highest.toNat) :
    window.checkAndUpdate packetId =
      if 128 ≤ window.highest.toNat - packetId.toNat then (false, window)
      else if window.bitmap.getLsbD (window.highest.toNat - packetId.toNat) then (false, window)
      else (true, { window with
        bitmap := window.bitmap ||| BitVec.twoPow 128 (window.highest.toNat - packetId.toNat) }) := by
  have notGreater : ¬ packetId > window.highest := by
    rw [gt_iff_lt, UInt64.lt_iff_toNat_lt]
    omega
  have diff : (window.highest - packetId).toNat = window.highest.toNat - packetId.toNat :=
    UInt64.toNat_sub_of_le _ _ (UInt64.le_iff_toNat_le.mpr behind)
  have old : (window.highest - packetId ≥ windowSize) ↔
      128 ≤ window.highest.toNat - packetId.toNat := by
    rw [ge_iff_le, UInt64.le_iff_toNat_le, diff]
    rfl
  simp only [checkAndUpdate, nonzero, notGreater, if_false, old, diff]
  by_cases tooOld : 128 ≤ window.highest.toNat - packetId.toNat
  · simp only [if_pos tooOld]
  · have test := and_mask_eq_zero window.bitmap
      (show window.highest.toNat - packetId.toNat < 128 by omega)
    simp only [if_neg tooOld, ne_eq, test]
    rw [one_shiftLeft]
    cases window.bitmap.getLsbD (window.highest.toNat - packetId.toNat) <;> rfl

theorem checkAndUpdate_refused (window : ReplayWindow) (packetId : UInt64)
    (refused : (window.checkAndUpdate packetId).1 = false) :
    (window.checkAndUpdate packetId).2 = window := by
  by_cases zero : packetId = 0
  · rw [zero, checkAndUpdate_zero]
  · by_cases ahead : window.highest.toNat < packetId.toNat
    · rw [checkAndUpdate_ahead window zero ahead] at refused
      cases refused
    · rw [checkAndUpdate_behind window zero (by omega)] at refused ⊢
      split_ifs at refused ⊢ <;> simp_all

end ReplayWindow

/-! ## The specification -/

/-- What a replay filter remembers: the ids it has accepted and the largest of
them (`0` when none). -/
structure ReplaySpec where
  accepted : Finset ℕ
  highest : ℕ
  deriving DecidableEq

namespace ReplaySpec

variable (width : ℕ)

def initial : ReplaySpec := ⟨∅, 0⟩

/-- An id is admitted when it is nonzero, fresh, and less than `width` below the highest. -/
def admits (spec : ReplaySpec) (id : ℕ) : Prop :=
  id ≠ 0 ∧ id ∉ spec.accepted ∧ spec.highest < id + width

instance (spec : ReplaySpec) (id : ℕ) : Decidable (spec.admits width id) :=
  inferInstanceAs (Decidable (_ ∧ _ ∧ _))

def step (spec : ReplaySpec) (id : ℕ) : Bool × ReplaySpec :=
  if spec.admits width id then (true, ⟨insert id spec.accepted, max spec.highest id⟩)
  else (false, spec)

theorem step_admitted {spec : ReplaySpec} {id : ℕ} (admits : spec.admits width id) :
    spec.step width id = (true, ⟨insert id spec.accepted, max spec.highest id⟩) := by
  simp [step, admits]

theorem step_refused {spec : ReplaySpec} {id : ℕ} (refused : ¬ spec.admits width id) :
    spec.step width id = (false, spec) := by
  simp [step, refused]

def admitted (ids : List ℕ) (answers : List Bool) : List ℕ :=
  ((ids.zip answers).filter (·.2)).map (·.1)

@[simp] theorem admitted_nil_left (answers : List Bool) : admitted [] answers = [] := rfl

theorem admitted_cons (id : ℕ) (ids : List ℕ) (answer : Bool) (answers : List Bool) :
    admitted (id :: ids) (answer :: answers) =
      if answer then id :: admitted ids answers else admitted ids answers := by
  cases answer <;> simp [admitted]

theorem step_fst (spec : ReplaySpec) (id : ℕ) :
    (spec.step width id).1 = decide (spec.admits width id) := by
  unfold step
  split_ifs with admitted <;> simp [admitted]

theorem run_state (ids : List ℕ) (spec : ReplaySpec) :
    (Machine.run (step width) spec ids).2 =
      ⟨spec.accepted ∪ (admitted ids (Machine.run (step width) spec ids).1).toFinset,
        max spec.highest ((admitted ids (Machine.run (step width) spec ids).1).foldr max 0)⟩ := by
  induction ids generalizing spec with
  | nil => simp [admitted]
  | cons id ids ih =>
      simp only [Machine.run_cons, admitted_cons, step_fst]
      by_cases admits : spec.admits width id
      · rw [step_admitted width admits]
        simp only [admits, decide_true, if_true, ih, List.toFinset_cons, List.foldr_cons]
        congr 1
        · ext member
          simp only [Finset.mem_union, Finset.mem_insert]
          tauto
        · exact max_assoc _ _ _
      · simp only [step_refused width admits, admits, decide_false, ih]
        rfl

theorem admitted_nodup (ids : List ℕ) (spec : ReplaySpec) :
    (admitted ids (Machine.run (step width) spec ids).1).Nodup ∧
      ∀ id ∈ admitted ids (Machine.run (step width) spec ids).1, id ∉ spec.accepted := by
  induction ids generalizing spec with
  | nil => simp
  | cons id ids ih =>
      simp only [Machine.run_cons, admitted_cons, step_fst]
      by_cases admits : spec.admits width id
      · obtain ⟨distinct, fresh⟩ := ih ⟨insert id spec.accepted, max spec.highest id⟩
        rw [step_admitted width admits]
        simp only [admits, decide_true, if_true, List.nodup_cons, List.mem_cons, forall_eq_or_imp]
        refine ⟨⟨fun again => fresh id again (Finset.mem_insert_self _ _), distinct⟩,
          admits.2.1, fun other member => ?_⟩
        exact fun old => fresh other member (Finset.mem_insert_of_mem old)
      · rw [step_refused width admits]
        simpa [admits] using ih spec

theorem le_foldr_max {ids : List ℕ} {id : ℕ} (member : id ∈ ids) : id ≤ ids.foldr max 0 := by
  induction ids with
  | nil => cases member
  | cons head rest ih =>
      rcases List.mem_cons.mp member with rfl | later
      · exact le_max_left _ _
      · exact (ih later).trans (le_max_right _ _)

theorem foldr_max_concat (ids : List ℕ) (id : ℕ) :
    (ids ++ [id]).foldr max 0 = max (ids.foldr max 0) id := by
  induction ids with
  | nil => simp
  | cons head rest ih => simp [ih, max_assoc]

theorem run_of_near (seen ids : List ℕ) (nonzero : ∀ id ∈ ids, id ≠ 0)
    (near : ∀ k (inside : k < ids.length), (seen ++ ids.take k).foldr max 0 < ids[k] + width) :
    (Machine.run (step width) ⟨seen.toFinset, seen.foldr max 0⟩ ids).2 =
      ⟨(seen ++ ids).toFinset, (seen ++ ids).foldr max 0⟩ := by
  induction ids generalizing seen with
  | nil => simp
  | cons next ids ih =>
      have first : seen.foldr max 0 < next + width := by
        have atZero := near 0 (by simp)
        rwa [List.take_zero, List.append_nil, List.getElem_cons_zero] at atZero
      have stepped : (step width ⟨seen.toFinset, seen.foldr max 0⟩ next).2 =
          ⟨(seen ++ [next]).toFinset, (seen ++ [next]).foldr max 0⟩ := by
        rw [foldr_max_concat]
        by_cases again : next ∈ seen
        · rw [step_refused width (fun admits => admits.2.1 (List.mem_toFinset.mpr again)),
            max_eq_left (le_foldr_max again)]
          dsimp only
          congr 1
          ext member
          simp only [List.mem_toFinset, List.mem_append, List.mem_singleton]
          constructor
          · exact Or.inl
          · rintro (old | rfl)
            · exact old
            · exact again
        · rw [step_admitted width ⟨nonzero next (by simp), by simpa using again, first⟩]
          dsimp only
          congr 1
          ext member
          simp
      have later := ih (seen ++ [next]) (fun other member => nonzero other (by simp [member]))
        (fun k inside => by
          have shifted := near (k + 1) (by simpa using inside)
          rwa [List.take_succ_cons, List.getElem_cons_succ, ← List.singleton_append,
            ← List.append_assoc] at shifted)
      simp only [Machine.run_cons, stepped, later, List.append_assoc, List.singleton_append]

theorem run_getElem?_of_near (ids : List ℕ) (nonzero : ∀ id ∈ ids, id ≠ 0)
    (near : ∀ k (inside : k < ids.length), (ids.take k).foldr max 0 < ids[k] + width)
    (k : ℕ) (inside : k < ids.length) :
    (Machine.run (step width) initial ids).1[k]? = some (decide (ids[k] ∉ ids.take k)) := by
  have before := run_of_near width [] (ids.take k)
    (fun id member => nonzero id (List.mem_of_mem_take member))
    (fun j within => by
      have bound : j < k := by
        simp only [List.length_take] at within
        omega
      simpa [List.take_take, Nat.min_eq_left bound.le] using near j (by omega))
  have fresh : initial = ⟨([] : List ℕ).toFinset, ([] : List ℕ).foldr max 0⟩ := rfl
  rw [Machine.run_getElem? _ _ _ k inside, fresh, before, step_fst]
  simp only [List.nil_append, admits, List.mem_toFinset, Option.some.injEq, decide_eq_decide]
  exact ⟨fun admitted => admitted.2.1, fun unseen => ⟨nonzero _ (List.getElem_mem inside), unseen,
    near k inside⟩⟩

end ReplaySpec

/-! ## Refinement -/

namespace ReplayWindow

/-- The window stands for `spec`: same highest id, every accepted id is nonzero and at
most the highest, and bit `n` is set exactly when `highest - n` was accepted. -/
structure Tracks (window : ReplayWindow) (spec : ReplaySpec) : Prop where
  highest : window.highest.toNat = spec.highest
  bounded : ∀ id ∈ spec.accepted, id ≤ spec.highest
  nonzero : 0 ∉ spec.accepted
  bits : ∀ n < 128,
    window.bitmap.getLsbD n = decide (n ≤ spec.highest ∧ spec.highest - n ∈ spec.accepted)

theorem tracks_new : Tracks new ReplaySpec.initial where
  highest := rfl
  bounded := by simp [ReplaySpec.initial]
  nonzero := by simp [ReplaySpec.initial]
  bits := by intro n _; simp [new, ReplaySpec.initial]

theorem tracks_advance {window : ReplayWindow} {spec : ReplaySpec} (tracks : Tracks window spec)
    {packetId : UInt64} (nonzero : packetId ≠ 0) (ahead : spec.highest < packetId.toNat) :
    Tracks { highest := packetId,
             bitmap := if 128 ≤ packetId.toNat - window.highest.toNat then 1
               else (window.bitmap <<< (packetId.toNat - window.highest.toNat)) ||| 1 }
      ⟨insert packetId.toNat spec.accepted, max spec.highest packetId.toNat⟩ := by
  have positive : packetId.toNat ≠ 0 := fun zero => nonzero (UInt64.toNat_inj.mp zero)
  have top : max spec.highest packetId.toNat = packetId.toNat := max_eq_right (by omega)
  have stale : ∀ n, spec.highest < packetId.toNat - n → packetId.toNat - n ∉ spec.accepted :=
    fun n above old => absurd (tracks.bounded _ old) (by omega)
  refine ⟨by simp only [top], ?_, ?_, ?_⟩
  · intro id member
    simp only [top]
    rcases Finset.mem_insert.mp member with same | old
    · omega
    · have := tracks.bounded id old
      omega
  · simp only [Finset.mem_insert, not_or]
    exact ⟨fun zero => positive zero.symm, tracks.nonzero⟩
  · intro n inside
    simp only [top, Finset.mem_insert, tracks.highest]
    by_cases zero : n = 0
    · subst zero
      split_ifs <;> simp
    · have notTop : packetId.toNat - n ≠ packetId.toNat := by omega
      split_ifs with far
      · simp [zero, notTop, stale n (by omega)]
      · rw [getLsbD_shift_or_one _ _ inside]
        by_cases below : n < packetId.toNat - spec.highest
        · have notAbove : ¬ packetId.toNat - spec.highest ≤ n := by omega
          simp [zero, notAbove, notTop, stale n (by omega)]
        · have above : packetId.toNat - spec.highest ≤ n := by omega
          have shifted : spec.highest - (n - (packetId.toNat - spec.highest)) =
              packetId.toNat - n := by omega
          have sameRange : n - (packetId.toNat - spec.highest) ≤ spec.highest ↔
              n ≤ packetId.toNat := by omega
          rw [tracks.bits _ (by omega), shifted]
          simp only [zero, above, notTop, sameRange, decide_false, decide_true, Bool.false_or,
            Bool.true_and, false_or]

theorem tracks_mark {window : ReplayWindow} {spec : ReplaySpec} (tracks : Tracks window spec)
    {packetId : UInt64} (nonzero : packetId ≠ 0) (behind : packetId.toNat ≤ spec.highest)
    (near : spec.highest - packetId.toNat < 128) :
    Tracks { window with
        bitmap := window.bitmap ||| BitVec.twoPow 128 (window.highest.toNat - packetId.toNat) }
      ⟨insert packetId.toNat spec.accepted, max spec.highest packetId.toNat⟩ := by
  have positive : packetId.toNat ≠ 0 := fun zero => nonzero (UInt64.toNat_inj.mp zero)
  have top : max spec.highest packetId.toNat = spec.highest := max_eq_left behind
  refine ⟨by simp only [top]; exact tracks.highest, ?_, ?_, ?_⟩
  · intro id member
    simp only [top]
    rcases Finset.mem_insert.mp member with same | old
    · omega
    · exact tracks.bounded id old
  · simp only [Finset.mem_insert, not_or]
    exact ⟨fun zero => positive zero.symm, tracks.nonzero⟩
  · intro n inside
    simp only [top, Finset.mem_insert]
    rw [tracks.highest, getLsbD_or_twoPow _ near, tracks.bits n inside]
    by_cases marked : spec.highest - packetId.toNat = n
    · have same : spec.highest - n = packetId.toNat := by omega
      simp [marked, same]
      omega
    · have notSame : ¬ spec.highest - n = packetId.toNat := by omega
      simp [marked, notSame]

theorem tracks_step {window : ReplayWindow} {spec : ReplaySpec} (tracks : Tracks window spec)
    (packetId : UInt64) :
    (window.checkAndUpdate packetId).1 = (spec.step 128 packetId.toNat).1 ∧
      Tracks (window.checkAndUpdate packetId).2 (spec.step 128 packetId.toNat).2 := by
  by_cases zero : packetId = 0
  · have refused : ¬ spec.admits 128 packetId.toNat := by simp [ReplaySpec.admits, zero]
    rw [zero, checkAndUpdate_zero]
    rw [zero] at refused
    rw [ReplaySpec.step_refused 128 refused]
    exact ⟨by simp, tracks⟩
  · have positive : packetId.toNat ≠ 0 := fun isZero => zero (UInt64.toNat_inj.mp isZero)
    by_cases ahead : spec.highest < packetId.toNat
    · have admits : spec.admits 128 packetId.toNat := by
        refine ⟨positive, fun old => ?_, by omega⟩
        have := tracks.bounded _ old
        omega
      rw [checkAndUpdate_ahead window zero (by rw [tracks.highest]; exact ahead),
        ReplaySpec.step_admitted 128 admits]
      exact ⟨rfl, tracks_advance tracks zero ahead⟩
    · have behind : packetId.toNat ≤ spec.highest := by omega
      have highest := tracks.highest
      rw [checkAndUpdate_behind window zero (by omega)]
      by_cases old : 128 ≤ spec.highest - packetId.toNat
      · have refused : ¬ spec.admits 128 packetId.toNat := by
          simp only [ReplaySpec.admits, not_and, not_lt]
          intros
          omega
        rw [if_pos (by omega), ReplaySpec.step_refused 128 refused]
        exact ⟨rfl, tracks⟩
      · -- the bit of `packetId` records exactly whether it was accepted
        have recorded : window.bitmap.getLsbD (window.highest.toNat - packetId.toNat) =
            decide (packetId.toNat ∈ spec.accepted) := by
          rw [highest, tracks.bits _ (by omega), Nat.sub_sub_self behind]
          simp
        rw [if_neg (by omega), recorded]
        by_cases seen : packetId.toNat ∈ spec.accepted
        · have refused : ¬ spec.admits 128 packetId.toNat := fun admits => admits.2.1 seen
          simp only [seen, decide_true, if_true, ReplaySpec.step_refused 128 refused]
          exact ⟨by simp, tracks⟩
        · have admits : spec.admits 128 packetId.toNat := ⟨positive, seen, by omega⟩
          simp only [seen, decide_false, Bool.false_eq_true, if_false,
            ReplaySpec.step_admitted 128 admits]
          exact ⟨by simp, tracks_mark tracks zero behind (by omega)⟩

theorem simulation :
    Machine.Simulation Tracks checkAndUpdate
      (fun (spec : ReplaySpec) (packetId : UInt64) => spec.step 128 packetId.toNat) :=
  fun _ _ packetId tracks => tracks_step tracks packetId

def answers (ids : List UInt64) : List Bool :=
  (Machine.run checkAndUpdate new ids).1

theorem answers_eq_spec (ids : List UInt64) :
    answers ids = (Machine.run (ReplaySpec.step 128) ReplaySpec.initial (ids.map UInt64.toNat)).1 := by
  have same := (simulation.run tracks_new ids).1
  rw [answers, same]
  clear same
  generalize ReplaySpec.initial = spec
  induction ids generalizing spec with
  | nil => rfl
  | cons id ids ih => simp [ih]

theorem answers_getElem? (ids : List UInt64) (k : ℕ) (inside : k < ids.length) :
    (answers ids)[k]? = some (decide (ReplaySpec.admits 128
      ⟨(ReplaySpec.admitted ((ids.take k).map UInt64.toNat) ((answers ids).take k)).toFinset,
        (ReplaySpec.admitted ((ids.take k).map UInt64.toNat) ((answers ids).take k)).foldr max 0⟩
      ids[k].toNat)) := by
  have mappedInside : k < (ids.map UInt64.toNat).length := by simpa using inside
  rw [answers_eq_spec, Machine.run_getElem? _ _ _ k mappedInside, ReplaySpec.step_fst,
    ReplaySpec.run_state, Machine.run_take, ← answers_eq_spec]
  simp [ReplaySpec.initial, List.map_take]

theorem answers_getElem?_of_near (ids : List UInt64) (nonzero : ∀ id ∈ ids, id ≠ 0)
    (near : ∀ k (inside : k < ids.length),
      ((ids.take k).map UInt64.toNat).foldr max 0 < ids[k].toNat + 128)
    (k : ℕ) (inside : k < ids.length) :
    (answers ids)[k]? = some (decide (ids[k] ∉ ids.take k)) := by
  have mappedInside : k < (ids.map UInt64.toNat).length := by simpa using inside
  have spec := ReplaySpec.run_getElem?_of_near 128 (ids.map UInt64.toNat)
    (fun id member => by
      obtain ⟨original, found, rfl⟩ := List.mem_map.mp member
      have positive := nonzero original found
      rwa [ne_eq, ← UInt64.toNat_inj] at positive)
    (fun j within => by simpa [List.map_take] using near j (by simpa using within)) k mappedInside
  rw [answers_eq_spec, spec]
  simp only [List.getElem_map, ← List.map_take, Option.some.injEq, decide_eq_decide]
  constructor
  · exact fun unseen seen => unseen (List.mem_map_of_mem seen)
  · intro unseen seen
    obtain ⟨other, member, same⟩ := List.mem_map.mp seen
    exact unseen (UInt64.toNat_inj.mp same ▸ member)

/-- A window created by `ReplayWindow::new` accepts, at every call of a run, exactly the
ids that are nonzero, were not accepted by an earlier call and are less than 128 below
the largest id accepted so far; so no id is ever accepted twice. -/
theorem check_and_update_refines_spec (ids : List UInt64) :
    (∀ k (inside : k < ids.length),
      (answers ids)[k]? = some true ↔
        ids[k] ≠ 0 ∧
          ids[k].toNat ∉ ReplaySpec.admitted ((ids.take k).map UInt64.toNat) ((answers ids).take k) ∧
          (ReplaySpec.admitted ((ids.take k).map UInt64.toNat) ((answers ids).take k)).foldr max 0 <
            ids[k].toNat + 128) ∧
      (ReplaySpec.admitted (ids.map UInt64.toNat) (answers ids)).Nodup := by
  constructor
  · intro k inside
    rw [answers_getElem? ids k inside]
    simp only [Option.some.injEq, decide_eq_true_eq, ReplaySpec.admits, List.mem_toFinset]
    have nonzero : ids[k].toNat ≠ 0 ↔ ids[k] ≠ 0 := by
      rw [ne_eq, ne_eq, ← UInt64.toNat_inj]
      rfl
    rw [nonzero]
  · rw [answers_eq_spec]
    exact (ReplaySpec.admitted_nodup 128 _ ReplaySpec.initial).1

/-- After ids `1`, `2` the replayed `1` is refused: it was accepted before. -/
theorem check_and_update_refines_spec_replayed :
    ((answers [1, 2, 1])[2]? = some true ↔
        ([1, 2, 1] : List UInt64)[2] ≠ 0 ∧
          ([1, 2, 1] : List UInt64)[2].toNat ∉ ReplaySpec.admitted
            ((([1, 2, 1] : List UInt64).take 2).map UInt64.toNat) ((answers [1, 2, 1]).take 2) ∧
          (ReplaySpec.admitted ((([1, 2, 1] : List UInt64).take 2).map UInt64.toNat)
            ((answers [1, 2, 1]).take 2)).foldr max 0 < ([1, 2, 1] : List UInt64)[2].toNat + 128) :=
  (check_and_update_refines_spec [1, 2, 1]).1 2 (by decide)

end ReplayWindow

end CoreVpn.Crypto
