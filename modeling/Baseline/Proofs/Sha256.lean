import Mathlib.Data.List.Range
import Baseline.Sha256

/-!
# The digest of FIPS 180-4

The standard numbers the words of the message schedule and gives each by the ones before it
(`schedule`).  The rounds here keep a window of sixteen of them, and the window of round `t`
holds the words `t` to `t + 15` (`rounds_eq`, by induction on the rounds that are left).  So a block
is mixed in as the standard says (`compress_eq`), and so are all blocks of the padded message
(`isDigest_digest`).
-/

namespace Baseline.Sha256

/-! ### One block -/

/-- The words of the message schedule of a block, §6.2.2 step 1. -/
def schedule (block : List UInt32) (t : Nat) : UInt32 :=
  if t < 16 then block.getD t 0
  else
    smallSigma1 (schedule block (t - 2)) + schedule block (t - 7) +
      smallSigma0 (schedule block (t - 15)) + schedule block (t - 16)
termination_by t
decreasing_by all_goals omega

/-- The working variables after so many rounds, §6.2.2 step 3. -/
def working (block : List UInt32) (s : State) : Nat → State
  | 0 => s
  | t + 1 => round (working block s t) (constants.getD t 0) (schedule block t)

/-- The hash value after a block, §6.2.2 step 4. -/
def update (s : State) (block : List UInt32) : State :=
  let t := working block s 64
  ⟨s.a + t.a, s.b + t.b, s.c + t.c, s.d + t.d, s.e + t.e, s.f + t.f, s.g + t.g, s.h + t.h⟩

theorem schedule_of_lt {block : List UInt32} {t : Nat} (h : t < 16) :
    schedule block t = block.getD t 0 := by
  rw [schedule, if_pos h]

theorem schedule_add (block : List UInt32) (t : Nat) :
    schedule block (t + 16) = smallSigma1 (schedule block (t + 14)) + schedule block (t + 9) +
      smallSigma0 (schedule block (t + 1)) + schedule block t := by
  rw [schedule, if_neg (by omega)]
  rfl

/-- The words that a window holds: sixteen of the schedule, from `t` on. -/
def window (block : List UInt32) (t : Nat) : List UInt32 :=
  (List.range 16).map fun j => schedule block (t + j)

theorem getD_window (block : List UInt32) (t : Nat) {j : Nat} (h : j < 16) :
    (window block t).getD j 0 = schedule block (t + j) := by
  simp [window, h]

theorem nextWord_window (block : List UInt32) (t : Nat) :
    nextWord (window block t) = schedule block (t + 16) := by
  unfold nextWord
  rw [getD_window _ _ (by omega), getD_window _ _ (by omega), getD_window _ _ (by omega),
    getD_window _ _ (by omega), schedule_add]
  rfl

/-- The window moves on by one word. -/
theorem window_succ (block : List UInt32) (t : Nat) :
    (window block t).tail ++ [schedule block (t + 16)] = window block (t + 1) := by
  have hfront : (window block t).tail = (List.range 15).map fun j => schedule block (t + 1 + j) := by
    rw [window, List.range_succ_eq_map, List.map_cons, List.tail_cons, List.map_map]
    apply List.map_congr_left
    intro j _
    show schedule block (t + (j + 1)) = schedule block (t + 1 + j)
    congr 1
    omega
  rw [hfront, window, List.range_succ, List.map_append]
  rfl

theorem window_zero {block : List UInt32} (h : block.length = 16) : window block 0 = block := by
  apply List.ext_getElem
  · simp [window, h]
  · intro j hj hj'
    have hlow : j < 16 := h ▸ hj'
    simp [window, schedule_of_lt hlow, hj']

/-- **The rounds that are left** lead to the same words as those of the standard. -/
theorem rounds_eq (block : List UInt32) (s : State) {n t : Nat} (h : t + n = 64) :
    rounds (constants.drop t) (window block t) (working block s t) = working block s 64 := by
  induction n generalizing t with
  | zero =>
    obtain rfl : t = 64 := by omega
    rfl
  | succ n ih =>
    have hlong : t < constants.length := by
      rw [constants_length]
      omega
    rw [List.drop_eq_getElem_cons hlong, rounds, nextWord_window, window_succ,
      getD_window _ _ (by omega), ← ih (by omega : t + 1 + n = 64), working]
    simp [List.getD_eq_getElem?_getD, List.getElem?_eq_getElem hlong]

theorem length_words (b : Bytes) : (words b).length = b.length / 4 := by
  fun_induction words b with
  | case1 a b c d rest ih =>
    simp only [List.length_cons, ih]
    omega
  | case2 b h =>
    match b with
    | [] | [_] | [_, _] | [_, _, _] => simp
    | a :: b :: c :: d :: rest => exact absurd rfl (h a b c d rest)

theorem compress_eq (s : State) {block : Bytes} (h : block.length = 64) :
    compress s block = update s (words block) := by
  have hwords : (words block).length = 16 := by rw [length_words, h]
  have hrounds := rounds_eq (words block) s (n := 64) (t := 0) rfl
  rw [window_zero hwords] at hrounds
  unfold compress update
  rw [← hrounds]
  rfl

/-! ### Whole messages -/

/-- A message is padded with a one bit, as many zeros as lead to eight bytes before the end of a
block, and its length in bits, §5.1.1. -/
def IsPadded (message padded : Bytes) : Prop :=
  ∃ zeros < 64, (message.length + 1 + zeros) % 64 = 56 ∧
    padded = message ++ [0x80] ++ List.replicate zeros 0 ++ lengthBytes (8 * message.length)

/-- A block of a padded message. -/
def blockAt (padded : Bytes) (i : Nat) : List UInt32 := words ((padded.drop (64 * i)).take 64)

/-- The digest of a message, §6.2.2: all blocks of the padded message are mixed in, in order. -/
def IsDigest (message d : Bytes) : Prop :=
  ∃ padded, IsPadded message padded ∧
    let s := (List.range (padded.length / 64)).foldl (fun s i => update s (blockAt padded i)) initial
    d = [s.a, s.b, s.c, s.d, s.e, s.f, s.g, s.h].flatMap wordBytes

theorem isPadded_pad (message : Bytes) : IsPadded message (pad message) := by
  refine ⟨(119 - message.length % 64) % 64, by omega, by omega, ?_⟩
  simp [pad]

theorem IsPadded.unique {message padded padded' : Bytes} (h : IsPadded message padded)
    (h' : IsPadded message padded') : padded = padded' := by
  obtain ⟨zeros, hlow, hend, rfl⟩ := h
  obtain ⟨zeros', hlow', hend', rfl⟩ := h'
  obtain rfl : zeros = zeros' := by omega
  rfl

theorem IsPadded.length {message padded : Bytes} (h : IsPadded message padded) :
    64 * (padded.length / 64) = padded.length := by
  obtain ⟨zeros, -, hend, rfl⟩ := h
  simp only [List.length_append, List.length_replicate, List.length_cons, List.length_nil,
    lengthBytes, List.length_map]
  omega

/-- **Whole blocks are mixed in** one after the other; by induction on their number. -/
theorem blocks_eq {n : Nat} {b : Bytes} (h : 64 * n ≤ b.length) (s : State) :
    blocks n s b = (List.range n).foldl (fun s i => update s (blockAt b i)) s := by
  induction n generalizing b s with
  | zero => rfl
  | succ n ih =>
    have hblock : (b.take 64).length = 64 := by
      rw [List.length_take]
      omega
    have hrest : 64 * n ≤ (b.drop 64).length := by
      rw [List.length_drop]
      omega
    have hnext : ∀ i, blockAt (b.drop 64) i = blockAt b (i + 1) := by
      intro i
      rw [blockAt, blockAt, List.drop_drop]
      congr 3
      omega
    rw [blocks, compress_eq s hblock, ih hrest, List.range_succ_eq_map, List.foldl_cons,
      List.foldl_map]
    simp only [hnext]
    rfl

/-- **The digest is that of the standard.** -/
theorem isDigest_iff {message d : Bytes} : IsDigest message d ↔ d = digest message := by
  have hpadded := isPadded_pad message
  have hblocks := blocks_eq hpadded.length.le initial
  constructor
  · rintro ⟨padded, h, rfl⟩
    obtain rfl := h.unique hpadded
    rw [← hblocks]
    rfl
  · rintro rfl
    refine ⟨pad message, hpadded, ?_⟩
    rw [← hblocks]
    rfl

end Baseline.Sha256
