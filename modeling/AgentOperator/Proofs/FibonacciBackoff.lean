import Mathlib.Data.List.Induction
import Mathlib.Data.Nat.Fib.Basic
import AgentOperator.Backoff

/-!
The backoff in closed form. As long as it is below its ceiling its two numbers are neighbours in the
Fibonacci sequence, in units of the floor; a word holds their sum until then, for the ceiling is a
word itself. However a backoff was used, the delays that it gives from a reset on are those of a new
one, and its numbers stay words.
-/
namespace AgentOperator.Backoff
variable {least most count : Nat} {b : Backoff}

def unit (least : Nat) : Nat := max least 1

def limit (least most : Nat) : Nat := max most (unit least)

def sequence (least most count : Nat) : Nat :=
  min (Nat.fib (count + 1) * unit least) (limit least most)

theorem unit_pos (least : Nat) : 0 < unit least := by
  unfold unit
  omega

theorem unit_le_fib_mul (least count : Nat) : unit least ≤ Nat.fib (count + 1) * unit least := by
  have positive : 0 < Nat.fib (count + 1) := Nat.fib_pos.mpr (by omega)
  exact Nat.le_mul_of_pos_left _ positive

theorem fib_mul_add (least count : Nat) :
    Nat.fib (count + 2) * unit least =
      Nat.fib count * unit least + Nat.fib (count + 1) * unit least := by
  rw [Nat.fib_add_two, Nat.add_mul]

/-- What holds of a backoff between these bounds after so many failures in a row. -/
structure Reached (least most count : Nat) (b : Backoff) : Prop where
  floor : b.floor = unit least
  ceiling : b.ceiling = limit least most
  delay : b.delay = sequence least most count
  climbing : b.current < b.ceiling →
    b.previous = Nat.fib count * unit least ∧ b.current = Nat.fib (count + 1) * unit least

theorem reached_of_fresh (floor : b.floor = unit least) (ceiling : b.ceiling = limit least most)
    (previous : b.previous = 0) (current : b.current = b.floor) : Reached least most 0 b := by
  refine ⟨floor, ceiling, ?_, ?_⟩
  · simp [Backoff.delay, sequence, current, floor, ceiling]
  · intro _
    simp [previous, current, floor]

theorem reached_start (least most : Nat) : Reached least most 0 (start least most) :=
  reached_of_fresh rfl rfl rfl rfl

theorem Reached.reset (reached : Reached least most count b) : Reached least most 0 b.reset :=
  reached_of_fresh reached.floor reached.ceiling rfl rfl

theorem Reached.advance (reached : Reached least most count b) (bounded : most ≤ largestWord) :
    Reached least most (count + 1) b.advance := by
  obtain ⟨floor, ceiling, delay, climbing⟩ := reached
  have next := fib_mul_add least count
  by_cases below : b.current < b.ceiling
  · obtain ⟨previous, current⟩ := climbing below
    have moved : b.advance = { b with
        previous := b.current, current := min (b.previous + b.current) largestWord } :=
      if_pos below
    have above := unit_le_fib_mul least count
    -- the ceiling is not the floor, so it is a word
    have word : b.ceiling ≤ largestWord := by
      rw [ceiling, limit] at below ⊢
      omega
    rw [moved]
    refine ⟨floor, ceiling, ?_, ?_⟩
    · simp only [Backoff.delay, sequence, ← ceiling, next, previous, current]
      omega
    · intro still
      dsimp only at still ⊢
      rw [show count + 1 + 1 = count + 2 from rfl, next]
      omega
  · have kept : b.advance = b := if_neg below
    rw [kept]
    refine ⟨floor, ceiling, ?_, fun climbs => absurd climbs below⟩
    -- the ceiling was reached before, and the sequence does not fall
    simp only [Backoff.delay, sequence, ← ceiling] at delay ⊢
    rw [next]
    omega

theorem fib_mul_le {less more : Nat} (ordered : less ≤ more) (least : Nat) :
    Nat.fib (less + 1) * unit least ≤ Nat.fib (more + 1) * unit least :=
  Nat.mul_le_mul_right _ (Nat.fib_mono (by omega))

theorem fib_mul_lt {less more : Nat} (ordered : less < more) (second : 2 ≤ more) (least : Nat) :
    Nat.fib (less + 1) * unit least < Nat.fib (more + 1) * unit least := by
  have below : Nat.fib (less + 1) ≤ Nat.fib more := Nat.fib_mono ordered
  have strict : Nat.fib more < Nat.fib (more + 1) := Nat.fib_lt_fib_succ second
  exact Nat.mul_lt_mul_of_pos_right (by omega) (unit_pos least)

/-- A longer row of failures gives the same delay if it is no longer, if it is the second failure
instead of the first, or if the ceiling is reached already. -/
theorem sequence_eq_iff {less more : Nat} (ordered : less ≤ more) :
    sequence least most more = sequence least most less ↔
      less = more ∨ (less = 0 ∧ more = 1) ∨
        limit least most ≤ Nat.fib (less + 1) * unit least := by
  unfold sequence
  constructor
  · intro same
    by_cases reached : limit least most ≤ Nat.fib (less + 1) * unit least
    · exact Or.inr (Or.inr reached)
    · by_cases equal : less = more
      · exact Or.inl equal
      · by_cases second : 2 ≤ more
        · have strict := fib_mul_lt (by omega : less < more) second least
          omega
        · exact Or.inr (Or.inl (by omega))
  · rintro (rfl | ⟨rfl, rfl⟩ | reached)
    · rfl
    · rfl
    · have further := fib_mul_le ordered least
      omega

inductive Use where
  | next
  | reset
  deriving DecidableEq, Repr

def Use.sinceReset (uses : List Use) : Nat := (uses.reverse.takeWhile (· = .next)).length

def use (b : Backoff) : Use → Backoff
  | .next => b.advance
  | .reset => b.reset

def afterUses (b : Backoff) (uses : List Use) : Backoff := uses.foldl use b

theorem Use.sinceReset_next (uses : List Use) :
    sinceReset (uses ++ [.next]) = sinceReset uses + 1 := by
  simp [sinceReset]

theorem Use.sinceReset_reset (uses : List Use) : sinceReset (uses ++ [.reset]) = 0 := by
  simp [sinceReset]

theorem afterUses_concat (b : Backoff) (uses : List Use) (u : Use) :
    b.afterUses (uses ++ [u]) = (b.afterUses uses).use u := by
  simp [afterUses, List.foldl_append]

theorem reached_afterUses (bounded : most ≤ largestWord) (uses : List Use) :
    Reached least most (Use.sinceReset uses) ((start least most).afterUses uses) := by
  -- on the last use, for it decides how many delays count
  induction uses using List.reverseRecOn with
  | nil => exact reached_start least most
  | append_singleton uses u ih =>
    rw [afterUses_concat]
    cases u with
    | next =>
      rw [Use.sinceReset_next]
      exact ih.advance bounded
    | reset =>
      rw [Use.sinceReset_reset]
      exact ih.reset

theorem Reached.reset_eq_start (reached : Reached least most count b) :
    b.reset = start least most := by
  obtain ⟨floor, ceiling, _, _⟩ := reached
  show Backoff.mk b.floor b.ceiling 0 b.floor = _
  rw [floor, ceiling]
  rfl

theorem Reached.delays (reached : Reached least most count b) (bounded : most ≤ largestWord)
    (further : Nat) :
    b.delays further = (List.range further).map fun k => sequence least most (count + k) := by
  induction further generalizing b count with
  | zero => rfl
  | succ further ih =>
    rw [Backoff.delays, reached.delay, ih (reached.advance bounded), List.range_succ_eq_map,
      List.map_cons, List.map_map]
    congr 1
    apply List.map_congr_left
    intro k _
    show sequence least most (count + 1 + k) = sequence least most (count + (k + 1))
    rw [Nat.add_right_comm, Nat.add_assoc]

theorem unit_le_sequence (least most count : Nat) : unit least ≤ sequence least most count :=
  Nat.le_min.mpr ⟨unit_le_fib_mul least count, Nat.le_max_right most (unit least)⟩

theorem sequence_le_limit (least most count : Nat) :
    sequence least most count ≤ limit least most :=
  Nat.min_le_right _ _

theorem sequence_mono {less more : Nat} (ordered : less ≤ more) :
    sequence least most less ≤ sequence least most more := by
  have further := fib_mul_le ordered least
  simp only [sequence]
  omega

structure Fits (b : Backoff) : Prop where
  floor : b.floor ≤ largestWord
  ceiling : b.ceiling ≤ largestWord
  previous : b.previous ≤ largestWord
  current : b.current ≤ largestWord

theorem fits_start (small : least ≤ largestWord) (bounded : most ≤ largestWord) :
    (start least most).Fits := by
  have floor : max least 1 ≤ largestWord := by
    unfold largestWord at *
    omega
  exact ⟨floor, Nat.max_le.mpr ⟨bounded, floor⟩, Nat.zero_le _, floor⟩

theorem Fits.use (fits : b.Fits) (u : Use) : (b.use u).Fits := by
  cases u with
  | next =>
    show b.advance.Fits
    unfold advance
    split
    · exact ⟨fits.floor, fits.ceiling, fits.current, Nat.min_le_right _ _⟩
    · exact fits
  | reset => exact ⟨fits.floor, fits.ceiling, Nat.zero_le _, fits.floor⟩

theorem Fits.afterUses (fits : b.Fits) (uses : List Use) : (b.afterUses uses).Fits := by
  induction uses generalizing b with
  | nil => exact fits
  | cons u uses ih => exact ih (fits.use u)

/-- Whatever was done with a backoff, its numbers are words, it gives the delay of its place in the
sequence, and a reset makes it a new one; a new one gives the Fibonacci numbers in units of the
floor, cut at the ceiling. -/
theorem delays_follow_fibonacci (least most : UInt64) (uses : List Use) (count : Nat) :
    let fresh := start least.toNat most.toNat
    let b := fresh.afterUses uses
    let m := max least.toNat 1
    let M := max most.toNat m
    b.Fits ∧
      b.delay = min (Nat.fib (Use.sinceReset uses + 1) * m) M ∧
      b.reset = fresh ∧
      (∀ errors, (History.mk b errors).reset = History.start least.toNat most.toNat) ∧
      fresh.delays count = (List.range count).map (fun k => min (Nat.fib (k + 1) * m) M) ∧
      (∀ delay ∈ fresh.delays count, m ≤ delay ∧ delay ≤ M) ∧
      (fresh.delays count).Pairwise fun earlier later =>
        earlier ≤ later ∧ (earlier = M → later = M) := by
  intro fresh b m M
  have small : least.toNat ≤ largestWord := Nat.le_of_lt_succ least.toNat_lt
  have bounded : most.toNat ≤ largestWord := Nat.le_of_lt_succ most.toNat_lt
  have reached : Reached least.toNat most.toNat (Use.sinceReset uses) b :=
    reached_afterUses bounded uses
  have renewed : b.reset = fresh := reached.reset_eq_start
  have delays : fresh.delays count =
      (List.range count).map (sequence least.toNat most.toNat) := by
    simpa using (reached_start least.toNat most.toNat).delays bounded count
  refine ⟨(fits_start small bounded).afterUses uses, reached.delay, renewed, ?_, delays, ?_, ?_⟩
  · intro errors
    exact congrArg (History.mk · 0) renewed
  · intro delay member
    rw [delays] at member
    obtain ⟨k, _, rfl⟩ := List.mem_map.mp member
    exact ⟨unit_le_sequence _ _ k, sequence_le_limit _ _ k⟩
  · rw [delays, List.pairwise_map]
    refine List.pairwise_lt_range.imp ?_
    intro less more before
    have ordered : sequence least.toNat most.toNat less ≤ sequence least.toNat most.toNat more :=
      sequence_mono (Nat.le_of_lt before)
    refine ⟨ordered, ?_⟩
    intro full
    exact Nat.le_antisymm (sequence_le_limit _ _ more) (full ▸ ordered)

end AgentOperator.Backoff
