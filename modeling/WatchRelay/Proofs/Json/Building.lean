import WatchRelay.Proofs.Json.Syntax

/-! The lexemes of a whole tree are built into that tree again, wherever a value is awaited. -/

namespace WatchRelay

namespace Tree

mutual

/-- The lexemes of a whole tree. -/
def lexemes : Tree → List Lexeme
  | .null => [.null]
  | .bool value => [.bool value]
  | .numeral n => [.numeral n]
  | .string s => [.string s]
  | .array items _ => .openBracket :: itemLexemes items ++ [.closeBracket]
  | .object members _ => .openBrace :: memberLexemes members ++ [.closeBrace]
  | .missing _ | .noColon _ => []

/-- The lexemes of items, separated by commas. -/
def itemLexemes : List Tree → List Lexeme
  | [] => []
  | [item] => item.lexemes
  | item :: next :: rest => item.lexemes ++ .comma :: itemLexemes (next :: rest)

/-- The lexemes of members, separated by commas. -/
def memberLexemes : List (Spelling × Tree) → List Lexeme
  | [] => []
  | [(key, value)] => .string key :: .colon :: value.lexemes
  | (key, value) :: next :: rest =>
    .string key :: .colon :: (value.lexemes ++ .comma :: memberLexemes (next :: rest))

end

/-- Where a value is awaited, and the containers around the value that comes there. -/
inductive AwaitsValue : List Frame → Awaited → List Frame → Prop where
  | value (frames : List Frame) : AwaitsValue frames .value frames
  | firstItem (frames : List Frame) : AwaitsValue frames .firstItem (.array [] :: frames)
  | nextItem (frames : List Frame) : AwaitsValue frames .nextItem frames

/-- Where a key is awaited, behind which members in reverse. -/
inductive AwaitsKey : Awaited → List (Spelling × Tree) → Prop where
  | firstKey : AwaitsKey .firstKey []
  | nextKey (members : List (Spelling × Tree)) : AwaitsKey (.nextKey members) members

section

variable {frames inner : List Frame} {awaited : Awaited} {ls : List Lexeme}

/-- What is built on behind a lexeme that starts a value. -/
theorem build_start (awaits : AwaitsValue frames awaited inner) {l : Lexeme} {frames' : List Frame}
    {awaited' : Awaited} (starts : startValue inner l = .go frames' awaited') :
    build frames awaited (l :: ls) = build frames' awaited' ls := by
  have moves : move frames awaited l = .go frames' awaited' := by
    cases awaits with
    | value => exact starts
    -- The one lexeme that these two do not take for the start of a value starts none.
    | firstItem | nextItem => cases l <;> first | exact starts | cases starts
  cases awaits <;> simp only [build, moves]

/-- What is built from the lexemes of a key, behind the members before it. -/
theorem build_key {members : List (Spelling × Tree)} (awaits : AwaitsKey awaited members)
    (key : Spelling) :
    build frames awaited (.string key :: .colon :: ls) =
      build (.object members key :: frames) .value ls := by
  cases awaits <;> simp only [build, move]

/-- The lexemes of items are built into an array with those before them. -/
theorem build_items (read : List Tree) {item : Tree} {rest : List Tree}
    (built : ∀ t ∈ item :: rest, ∀ {frames awaited inner ls},
      AwaitsValue frames awaited inner →
      build frames awaited (t.lexemes ++ ls) = build inner (.next t) ls)
    (awaits : AwaitsValue frames awaited (.array read :: inner)) :
    build frames awaited (itemLexemes (item :: rest) ++ .closeBracket :: ls) =
      build inner (.next (.array (read.reverse ++ item :: rest) .closed)) ls := by
  -- By induction on the items behind the first, each of which is awaited behind a comma.
  induction rest generalizing item read frames awaited with
  | nil =>
    rw [itemLexemes, built item (by simp) awaits]
    simp [build, move]
  | cons next rest ih =>
    obtain ⟨first, later⟩ := List.forall_mem_cons.mp built
    rw [itemLexemes, List.append_assoc, first awaits]
    simp only [build, move, List.cons_append]
    rw [ih _ later (.nextItem _)]
    simp

/-- The lexemes of members are built into an object with those before them. -/
theorem build_members (read : List (Spelling × Tree)) {member : Spelling × Tree}
    {rest : List (Spelling × Tree)}
    (built : ∀ p ∈ member :: rest, ∀ {frames awaited inner ls},
      AwaitsValue frames awaited inner →
      build frames awaited (p.2.lexemes ++ ls) = build inner (.next p.2) ls)
    (awaits : AwaitsKey awaited read) :
    build frames awaited (memberLexemes (member :: rest) ++ .closeBrace :: ls) =
      build frames (.next (.object (read.reverse ++ member :: rest) .closed)) ls := by
  -- By induction on the members behind the first, each of which awaits its key and then a value.
  induction rest generalizing member read awaited with
  | nil =>
    obtain ⟨key, value⟩ := member
    rw [memberLexemes, List.cons_append, List.cons_append, build_key awaits,
      built (key, value) (by simp) (.value _)]
    simp [build, move]
  | cons next rest ih =>
    obtain ⟨key, value⟩ := member
    obtain ⟨first, later⟩ := List.forall_mem_cons.mp built
    simp only [memberLexemes, List.cons_append, List.append_assoc]
    rw [build_key awaits, first (.value _)]
    simp only [build, move]
    rw [ih _ later (.nextKey _)]
    simp

/-- The lexemes of a whole tree are built into it where a value is awaited. -/
theorem Whole.build_lexemes {t : Tree} (whole : t.Whole)
    (awaits : AwaitsValue frames awaited inner) :
    build frames awaited (t.lexemes ++ ls) = build inner (.next t) ls := by
  -- By induction on the tree, as each container awaits its first part or its closing bracket.
  induction whole generalizing frames awaited inner ls with
  | null | bool _ | numeral _ | string _ =>
    simp only [lexemes, List.cons_append, List.nil_append]
    exact build_start awaits rfl
  | @array items _ ih =>
    simp only [lexemes, List.cons_append, List.append_assoc, List.nil_append]
    rw [build_start awaits rfl]
    cases items with
    | nil => simp [itemLexemes, build, move]
    | cons item rest => exact build_items [] (fun t member => ih t member) (.firstItem _)
  | @object members _ ih =>
    simp only [lexemes, List.cons_append, List.append_assoc, List.nil_append]
    rw [build_start awaits rfl]
    cases members with
    | nil => simp [memberLexemes, build, move]
    | cons member rest => exact build_members [] (fun p member => ih p member) .firstKey

end

/-- The lexemes of a whole tree are a text of that tree. -/
theorem Whole.build {t : Tree} (whole : t.Whole) : Tree.build [] .value t.lexemes = (t, []) := by
  -- With nothing behind the tree, the last move awaits what follows a value.
  have built : Tree.build [] .value (t.lexemes ++ []) = Tree.build [] (.next t) [] :=
    whole.build_lexemes (.value [])
  rwa [List.append_nil, Tree.build] at built

end Tree

end WatchRelay
