/-! Runs of whatever makes moves, each with its moves in order and with what each of them met. -/

namespace WatchRelay

/-- A move, and the state it met. -/
structure Trace.Entry (σ μ : Type) where
  state : σ
  move : μ

variable {σ μ : Type} {act : σ → μ → Option σ} {s s' s₀ : σ}
  {past more : List (Trace.Entry σ μ)}

/-- The runs from a state, where `act` tells what a move leads to, if it can be made. -/
inductive Trace (act : σ → μ → Option σ) (s₀ : σ) :
    List (Trace.Entry σ μ) → σ → Prop where
  | start : Trace act s₀ [] s₀
  | next {past : List (Trace.Entry σ μ)} {s s' : σ} {m : μ} (run : Trace act s₀ past s)
      (moved : act s m = some s') : Trace act s₀ (past ++ [⟨s, m⟩]) s'

namespace Trace

/-- Makes moves one after the other, if each can be made, and keeps what each met. -/
def play (act : σ → μ → Option σ) (s : σ) :
    List μ → Option (List (Trace.Entry σ μ) × σ)
  | [] => some ([], s)
  | m :: rest => do
    let s' ← act s m
    let (past, s'') ← play act s' rest
    some (⟨s, m⟩ :: past, s'')

/-- What is told of one more is told last. -/
theorem filterMap_concat {α β : Type} (f : α → Option β) (told : List α) (x : α) :
    (told ++ [x]).filterMap f = told.filterMap f ++ (f x).toList := by
  -- Of the one that comes last there is one thing told, or none.
  rw [List.filterMap_append]
  cases tells : f x <;> simp [tells]

section

variable {α β : Type} {f : α → Option β} {p : α → Bool} {read all : List α}

/-- Where only the last can fail `p`, and nothing is told of one that fails it, all that is told is
told of those before the first that fails it. -/
theorem filterMap_takeWhile (before : ∀ x ∈ read.dropLast, p x = true)
    (silent : ∀ x, p x = false → f x = none) :
    (read.takeWhile p).filterMap f = read.filterMap f := by
  rcases List.eq_nil_or_concat read with empty | ⟨first, last, same⟩
  · rw [empty]
    rfl
  · rw [List.concat_eq_append] at same
    have going : ∀ x ∈ first, p x = true := by simpa [same] using before
    rw [same, List.takeWhile_append_of_pos going]
    -- The last passes like the others, or nothing is told of it.
    cases passes : p last with
    | true => simp [passes]
    | false => simp [passes, silent last passes]

/-- What is told of the first of them is the first of what is told of those before the first that
fails. -/
theorem filterMap_prefix (first : read <+: all) (before : ∀ x ∈ read.dropLast, p x = true)
    (silent : ∀ x, p x = false → f x = none) :
    read.filterMap f <+: (all.takeWhile p).filterMap f := by
  -- What is read is a beginning of the whole, so no more of it stands before the first failure.
  rw [← filterMap_takeWhile before silent]
  refine List.IsPrefix.filterMap f ?_
  obtain ⟨rest, same⟩ := first
  rw [← same, List.takeWhile_append]
  split
  · exact (List.takeWhile_prefix _).trans (List.prefix_append _ _)
  · exact List.prefix_rfl

/-- If one that fails is among the first, or if they are all there are, it is the whole of it. -/
theorem filterMap_whole (first : read <+: all) (before : ∀ x ∈ read.dropLast, p x = true)
    (silent : ∀ x, p x = false → f x = none)
    (halted : (∃ x ∈ read, p x = false) ∨ read = all) :
    read.filterMap f = (all.takeWhile p).filterMap f := by
  rw [← filterMap_takeWhile before silent]
  rcases halted with ⟨x, among, fails⟩ | same
  · -- What comes behind one that fails does not matter.
    obtain ⟨rest, same⟩ := first
    rw [← same, List.takeWhile_append, if_neg]
    intro long
    have whole := (List.takeWhile_prefix p).eq_of_length long
    have passes := List.all_takeWhile (p := p) (l := read)
    rw [whole] at passes
    rw [List.all_eq_true.mp passes x among] at fails
    cases fails
  · rw [same]

end

/-- A run goes on where another ends. -/
theorem append (first : Trace act s₀ past s) (second : Trace act s more s') :
    Trace act s₀ (past ++ more) s' := by
  -- The induction is on the second run, which is taken off move by move.
  induction second with
  | start => simpa using first
  | next _ moved ih =>
    rw [← List.append_assoc]
    exact ih.next moved

/-- Moves that are made one after the other are a run. -/
theorem of_play {moves : List μ} (plays : play act s moves = some (past, s')) :
    Trace act s past s' := by
  induction moves generalizing s past with
  | nil =>
    obtain ⟨rfl, rfl⟩ := by simpa [play] using plays
    exact .start
  | cons m rest ih =>
    -- The first move is a run of its own, and the others go on from where it leads.
    obtain ⟨s₁, moved, later⟩ := Option.bind_eq_some_iff.mp plays
    obtain ⟨⟨past₁, s₂⟩, plays₁, same⟩ := Option.bind_eq_some_iff.mp later
    obtain ⟨rfl, rfl⟩ := by simpa using same
    exact append (.next .start moved) (ih plays₁)

/-- The entries of moves that are made one after the other are those of the moves. -/
theorem moves_of_play {moves : List μ} (plays : play act s moves = some (past, s')) :
    past.map Trace.Entry.move = moves := by
  induction moves generalizing s past with
  | nil =>
    -- Without moves there is no entry.
    obtain ⟨rfl, -⟩ := by simpa [play] using plays
    rfl
  | cons m rest ih =>
    obtain ⟨s₁, -, later⟩ := Option.bind_eq_some_iff.mp plays
    obtain ⟨⟨past₁, s₂⟩, plays₁, same⟩ := Option.bind_eq_some_iff.mp later
    obtain ⟨rfl, rfl⟩ := by simpa using same
    rw [List.map_cons, ih plays₁]

/-- What every move keeps of a state and its past holds at the end of a run; that the run leads to
the move may be used for it. -/
theorem keeps {P : List (Trace.Entry σ μ) → σ → Prop} (run : Trace act s₀ past s)
    (start : P [] s₀)
    (step : ∀ {past s s' m}, Trace act s₀ past s → act s m = some s' → P past s →
      P (past ++ [⟨s, m⟩]) s') : P past s := by
  -- The induction is on the run, whose last move comes off first.
  induction run with
  | start => exact start
  | next run moved ih => exact step run moved ih

/-- A run passes through every one of its occasions. -/
theorem split {before : List (Trace.Entry σ μ)} {o : Trace.Entry σ μ}
    {after : List (Trace.Entry σ μ)}
    (run : Trace act s₀ (before ++ o :: after) s) :
    ∃ s₁, Trace act s₀ before o.state ∧ act o.state o.move = some s₁ ∧
      Trace act s₁ after s := by
  generalize whole : before ++ o :: after = past at run
  induction run generalizing after with
  | start => simp at whole
  | @next past s s' m run moved ih =>
    rcases List.eq_nil_or_concat after with none | ⟨rest, final, same⟩
    · -- The occasion is the last one.
      subst none
      obtain ⟨rfl, same⟩ := List.append_inj' whole rfl
      obtain rfl : o = ⟨s, m⟩ := by simpa using same
      exact ⟨s', run, moved, .start⟩
    · -- Otherwise the run passes through it before its last move.
      rw [same, List.concat_eq_append, ← List.cons_append, ← List.append_assoc] at whole
      obtain ⟨same', last⟩ := List.append_inj' whole rfl
      obtain ⟨s₁, first, met, later⟩ := ih same'
      obtain rfl : final = ⟨s, m⟩ := by simpa using last
      exact ⟨s₁, first, met, by rw [same, List.concat_eq_append]; exact later.next moved⟩

/-- Every occasion of a run is one at which its move could be made. -/
theorem met {o : Trace.Entry σ μ} (run : Trace act s₀ past s) (among : o ∈ past) :
    -- The run is cut before the occasion.
    ∃ s₁, act o.state o.move = some s₁ := by
  obtain ⟨before, after, rfl⟩ := List.append_of_mem among
  obtain ⟨s₁, -, moved, -⟩ := run.split
  exact ⟨s₁, moved⟩

end Trace

end WatchRelay
