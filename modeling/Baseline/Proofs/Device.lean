import Baseline.Device

/-!
# What a device takes

A device takes bytes piece by piece as it takes them at once (`Device.taken_append`), and what
comes behind a piece that it refuses makes no difference.

So the buffer of an outlet does not show on the device: pieces that are put into it and
flushed come off as if all that waited and the pieces had been handed over at once
(`Outlet.putAll_of_fits`, `Outlet.putAll_of_refused`).  It shows only in what is left over when
the device refuses, which goes on from what was taken but need not be all of the rest.
-/

namespace Baseline

namespace Device

@[simp] theorem refusal?_zero (d : Device) : d.refusal? 0 = none := by
  cases d <;> simp [refusal?]

theorem refusal?_eq_some {d : Device} {n : Nat} {fault : Fault} :
    d.refusal? n = some fault ↔ ∃ room, d = .limited room fault ∧ room < n := by
  cases d with
  | endless => simp [refusal?]
  | limited room fault' =>
    simp only [refusal?, Option.ite_none_left_eq_some, Nat.not_le, Option.some.injEq,
      limited.injEq]
    exact ⟨fun h => ⟨room, ⟨rfl, h.2⟩, h.1⟩, fun ⟨_, ⟨hroom, hfault⟩, h⟩ => ⟨hroom ▸ h, hfault⟩⟩

@[simp] theorem after_zero (d : Device) : d.after 0 = d := by
  cases d <;> simp [after]

theorem after_after (d : Device) (m n : Nat) : (d.after m).after n = d.after (m + n) := by
  cases d with
  | endless => rfl
  | limited room fault => simp only [after, Nat.sub_sub]

theorem limited_of_after {d : Device} {n room : Nat} {fault : Fault}
    (h : d.after n = .limited room fault) : ∃ before, d = .limited before fault := by
  cases d with
  | endless => cases h
  | limited before fault' => exact ⟨before, by rw [(limited.inj h).2]⟩

@[simp] theorem taken_nil (d : Device) : d.taken [] = [] := by
  cases d <;> simp [taken]

/-- What fits fits piece by piece. -/
theorem refusal?_add (d : Device) (m n : Nat) :
    d.refusal? (m + n) = (d.refusal? m).or ((d.after m).refusal? n) := by
  cases d with
  | endless => rfl
  | limited room fault =>
    simp only [refusal?, after]
    by_cases hm : m ≤ room
    · have hrest : m + n ≤ room ↔ n ≤ room - m := by omega
      simp [hm, hrest]
    · have hall : ¬ m + n ≤ room := by omega
      simp [hm, hall]

/-- A device that has refused bytes takes none of those behind them. -/
theorem after_of_refused {d : Device} {m : Nat} {fault : Fault} (h : d.refusal? m = some fault)
    (n : Nat) : d.after (m + n) = d.after m := by
  obtain ⟨room, rfl, hroom⟩ := refusal?_eq_some.mp h
  simp only [after, limited.injEq, and_true]
  omega

/-- A device that has refused bytes has no room left. -/
theorem taken_after_of_refused {d : Device} {n : Nat} {fault : Fault}
    (h : d.refusal? n = some fault) (data : Bytes) : (d.after n).taken data = [] := by
  obtain ⟨room, rfl, hroom⟩ := refusal?_eq_some.mp h
  rw [after, taken, Nat.sub_eq_zero_of_le (Nat.le_of_lt hroom), List.take_zero]

theorem taken_of_fits {d : Device} {data : Bytes} (h : d.refusal? data.length = none) :
    d.taken data = data := by
  cases d with
  | endless => rfl
  | limited room fault => exact List.take_of_length_le (by simpa [refusal?] using h)

/-- **Bytes are taken piece by piece.** -/
theorem taken_append {d : Device} {front : Bytes} (h : d.refusal? front.length = none)
    (back : Bytes) : d.taken (front ++ back) = front ++ (d.after front.length).taken back := by
  cases d with
  | endless => rfl
  | limited room fault =>
    have hfits : front.length ≤ room := by simpa [refusal?] using h
    simp only [taken, after, List.take_append, List.take_of_length_le hfits]

theorem taken_append_of_refused {d : Device} {front : Bytes} {fault : Fault}
    (h : d.refusal? front.length = some fault) (back : Bytes) :
    d.taken (front ++ back) = d.taken front := by
  obtain ⟨room, rfl, hroom⟩ := refusal?_eq_some.mp h
  exact List.take_append_of_le_length (Nat.le_of_lt hroom)

theorem taken_prefix (d : Device) (data : Bytes) : d.taken data <+: data := by
  cases d with
  | endless => exact List.prefix_refl data
  | limited room fault => exact List.take_prefix room data

end Device

namespace Outlet

variable {o o₁ o' : Outlet} {data more : Bytes} {fault : Fault}

/-! ### On the way -/

/-- Bytes came behind those that waited, and all that was handed over was taken. -/
structure Moves (o : Outlet) (data : Bytes) (o' : Outlet) : Prop where
  moved : ∃ handed, o.waiting ++ data = handed ++ o'.waiting ∧
    o.device.refusal? handed.length = none ∧ o'.taken = o.taken ++ handed ∧
    o'.device = o.device.after handed.length

/-- Something was refused of what waited and the bytes behind that.  What is left over goes on from
what was taken. -/
structure Sticks (o : Outlet) (data : Bytes) (fault : Fault) (o' : Outlet) : Prop where
  refused : o.device.refusal? (o.waiting ++ data).length = some fault
  taken : o'.taken = o.taken ++ o.device.taken (o.waiting ++ data)
  device : o'.device = o.device.after (o.waiting ++ data).length
  left : o.device.taken (o.waiting ++ data) ++ o'.waiting <+: o.waiting ++ data

theorem Moves.trans (h : o.Moves data o₁) (h' : o₁.Moves more o') : o.Moves (data ++ more) o' := by
  obtain ⟨first, hfirst, hfits, htaken, hdevice⟩ := h
  obtain ⟨second, hsecond, hfits', htaken', hdevice'⟩ := h'
  refine ⟨first ++ second, ?_, ?_, ?_, ?_⟩
  · rw [← List.append_assoc, hfirst, List.append_assoc, hsecond, List.append_assoc]
  · rw [List.length_append, Device.refusal?_add, hfits, ← hdevice, hfits', Option.or_none]
  · rw [htaken', htaken, List.append_assoc]
  · rw [hdevice', hdevice, Device.after_after, List.length_append]

theorem Moves.sticks (h : o.Moves data o₁) (h' : o₁.Sticks more fault o') :
    o.Sticks (data ++ more) fault o' := by
  obtain ⟨handed, hall, hfits, htaken, hdevice⟩ := h
  have hwhole : o.waiting ++ (data ++ more) = handed ++ (o₁.waiting ++ more) := by
    rw [← List.append_assoc, hall, List.append_assoc]
  have htakes : o.device.taken (o.waiting ++ (data ++ more)) =
      handed ++ o₁.device.taken (o₁.waiting ++ more) := by
    rw [hwhole, Device.taken_append hfits, hdevice]
  refine ⟨?_, ?_, ?_, ?_⟩
  · rw [hwhole, List.length_append, Device.refusal?_add, hfits, ← hdevice, h'.refused]
    rfl
  · rw [h'.taken, htaken, htakes, List.append_assoc]
  · rw [h'.device, hdevice, Device.after_after, hwhole, ← List.length_append]
  · rw [htakes, hwhole, List.append_assoc]
    exact (List.prefix_append_right_inj handed).mpr h'.left

/-- What comes behind bytes that were refused makes no difference. -/
theorem Sticks.append (h : o.Sticks data fault o') (more : Bytes) :
    o.Sticks (data ++ more) fault o' := by
  have htakes : o.device.taken (o.waiting ++ (data ++ more)) =
      o.device.taken (o.waiting ++ data) := by
    rw [← List.append_assoc, Device.taken_append_of_refused h.refused]
  refine ⟨?_, ?_, ?_, ?_⟩
  · rw [← List.append_assoc, List.length_append, Device.refusal?_add, h.refused]
    rfl
  · rw [htakes, h.taken]
  · have hlength : (o.waiting ++ (data ++ more)).length =
        (o.waiting ++ data).length + more.length := by simp [Nat.add_assoc]
    rw [h.device, hlength, Device.after_of_refused h.refused]
  · rw [htakes, ← List.append_assoc]
    exact h.left.trans (List.prefix_append _ more)

/-! ### Deliveries -/

/-- From an outlet on a delivery puts bytes behind those that wait, and may hand some over. -/
def DeliversFrom (o : Outlet) (data : Bytes) (d : Delivery) : Prop :=
  match d o with
  | .ok () o' => o.Moves data o'
  | .error fault o' => o.Sticks data fault o'

theorem DeliversFrom.of_ok {d : Delivery} (h : o.DeliversFrom data d) (hd : d o = .ok () o') :
    o.Moves data o' := by
  rwa [DeliversFrom, hd] at h

theorem DeliversFrom.of_error {d : Delivery} (h : o.DeliversFrom data d)
    (hd : d o = .error fault o') : o.Sticks data fault o' := by
  rwa [DeliversFrom, hd] at h

/-- **One delivery after the other.** -/
theorem DeliversFrom.bind {d d' : Delivery} (h : o.DeliversFrom data d)
    (h' : ∀ o₁, d o = .ok () o₁ → o₁.DeliversFrom more d') :
    o.DeliversFrom (data ++ more) (d >>= fun _ => d') := by
  have hbind : (d >>= fun _ => d') o = EStateM.bind d (fun _ => d') o := rfl
  rw [DeliversFrom, hbind, EStateM.bind]
  cases hd : d o with
  | error fault o₁ => exact (h.of_error hd).append more
  | ok _ o₁ =>
    dsimp only
    cases hd' : d' o₁ with
    | error fault o' => exact (h.of_ok hd).sticks ((h' o₁ hd).of_error hd')
    | ok _ o' => exact (h.of_ok hd).trans ((h' o₁ hd).of_ok hd')

theorem deliversFrom_hold (o : Outlet) (data : Bytes) : o.DeliversFrom data (hold data) :=
  ⟨[], by simp, Device.refusal?_zero _, by simp, (Device.after_zero _).symm⟩

/-- Bytes can be handed over when none wait. -/
theorem deliversFrom_hand (h : o.waiting = []) (data : Bytes) :
    o.DeliversFrom data (hand data) := by
  unfold DeliversFrom hand
  cases hfits : o.device.refusal? data.length with
  | none => exact ⟨data, by simp [h], hfits, by simp [Device.taken_of_fits hfits], rfl⟩
  | some fault =>
    refine ⟨by simpa [h] using hfits, by simp [h], by simp [h], ?_⟩
    simpa [h] using o.device.taken_prefix data

theorem waiting_of_flush (h : flush o = .ok () o') : o'.waiting = [] := by
  unfold flush at h
  cases hhand : hand o.waiting o with
  | error fault o₁ => simp [hhand] at h
  | ok _ o₁ =>
    simp only [hhand, EStateM.Result.ok.injEq, true_and] at h
    rw [← h]

theorem deliversFrom_flush (o : Outlet) : o.DeliversFrom [] flush := by
  unfold DeliversFrom flush hand
  cases hfits : o.device.refusal? o.waiting.length with
  | none => exact ⟨o.waiting, by simp, hfits, by simp [Device.taken_of_fits hfits], rfl⟩
  | some fault =>
    refine ⟨by simpa using hfits, by simp, by simp, ?_⟩
    -- what is dropped from the bytes that wait is what was taken of them
    have hrest := List.prefix_iff_eq_append.mp (o.device.taken_prefix o.waiting)
    simp [hrest]

/-- **A piece is put behind what waits**, whether the buffer has room for it or not. -/
theorem deliversFrom_put (o : Outlet) (data : Bytes) : o.DeliversFrom data (put data) := by
  have hlast : ∀ o₁ : Outlet, (capacity ≤ data.length → o₁.waiting = []) →
      o₁.DeliversFrom data (if capacity ≤ data.length then hand data else hold data) := by
    intro o₁ hwaiting
    split
    · rename_i hlarge
      exact deliversFrom_hand (hwaiting hlarge) data
    · exact deliversFrom_hold o₁ data
  by_cases hfull : capacity - o.waiting.length < data.length
  · have hput : put data o = (flush >>= fun _ =>
        if capacity ≤ data.length then hand data else hold data) o := by
      show (if capacity - o.waiting.length < data.length then _ else _ : Delivery) o = _
      rw [if_pos hfull]
    rw [DeliversFrom, hput]
    exact (deliversFrom_flush o).bind fun o₁ hflush => hlast o₁ fun _ => waiting_of_flush hflush
  · have hput : put data o =
        (if capacity ≤ data.length then hand data else hold data : Delivery) o := by
      show (if capacity - o.waiting.length < data.length then _ else _ : Delivery) o = _
      rw [if_neg hfull]
    rw [DeliversFrom, hput]
    refine hlast o fun hlarge => List.eq_nil_of_length_eq_zero ?_
    have hpositive : 0 < capacity := by decide
    omega

theorem deliversFrom_putAll (o : Outlet) (pieces : List Bytes) :
    o.DeliversFrom pieces.flatten (putAll pieces) := by
  induction pieces generalizing o with
  | nil => exact deliversFrom_flush o
  | cons piece rest ih => exact (deliversFrom_put o piece).bind fun o₁ _ => ih o₁

/-- In the end nothing waits, unless something was refused. -/
theorem waiting_of_putAll {pieces : List Bytes} (h : putAll pieces o = .ok () o') :
    o'.waiting = [] := by
  induction pieces generalizing o with
  | nil => exact waiting_of_flush h
  | cons piece rest ih =>
    have hbind : putAll (piece :: rest) o = EStateM.bind (put piece) (fun _ => putAll rest) o := rfl
    rw [hbind, EStateM.bind] at h
    cases hput : put piece o with
    | error fault o₁ => simp [hput] at h
    | ok _ o₁ =>
      rw [hput] at h
      exact ih h

/-! ### All at once -/

/-- **Pieces that fit with all that waits** come off together. -/
theorem putAll_of_fits (o : Outlet) (pieces : List Bytes)
    (h : o.device.refusal? (o.waiting ++ pieces.flatten).length = none) :
    putAll pieces o = .ok () ⟨o.taken ++ (o.waiting ++ pieces.flatten), [],
      o.device.after (o.waiting ++ pieces.flatten).length⟩ := by
  have hall := deliversFrom_putAll o pieces
  cases hput : putAll pieces o with
  | error fault o' =>
    have hrefused := (hall.of_error hput).refused
    rw [h] at hrefused
    cases hrefused
  | ok _ o' =>
    obtain ⟨handed, heq, -, htaken, hdevice⟩ := hall.of_ok hput
    have hwaiting := waiting_of_putAll hput
    rw [hwaiting, List.append_nil] at heq
    obtain ⟨taken, waiting, device⟩ := o'
    simp only at hwaiting htaken hdevice
    rw [hwaiting, htaken, hdevice, heq]

/-- **Pieces that do not fit** are taken as far as there is room. -/
theorem putAll_of_refused (o : Outlet) (pieces : List Bytes)
    (h : o.device.refusal? (o.waiting ++ pieces.flatten).length = some fault) :
    ∃ left, putAll pieces o = .error fault ⟨o.taken ++ o.device.taken (o.waiting ++ pieces.flatten),
        left, o.device.after (o.waiting ++ pieces.flatten).length⟩ ∧
      o.device.taken (o.waiting ++ pieces.flatten) ++ left <+: o.waiting ++ pieces.flatten := by
  have hall := deliversFrom_putAll o pieces
  cases hput : putAll pieces o with
  | ok _ o' =>
    obtain ⟨handed, heq, hfits, -⟩ := hall.of_ok hput
    rw [waiting_of_putAll hput, List.append_nil] at heq
    simp [heq, hfits] at h
  | error fault' o' =>
    obtain ⟨hrefused, htaken, hdevice, hleft⟩ := hall.of_error hput
    obtain rfl : fault' = fault := Option.some.inj (hrefused.symm.trans h)
    obtain ⟨taken, waiting, device⟩ := o'
    simp only at htaken hdevice hleft
    exact ⟨waiting, by rw [htaken, hdevice], hleft⟩

end Outlet

end Baseline
