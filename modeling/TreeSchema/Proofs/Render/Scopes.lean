import TreeSchema.Proofs.Render.Programs

/-!
Scopes of the name of the item. Code opens blocks, of which some introduce the name, and a use of it
stands for the innermost block around it that does. If every block introduces the name exactly when
its own steps use it, each use stands for the block it is in.
-/

namespace TreeSchema

namespace Scoping

/-- What a block is for: the elements of a sequence, or a value that may be missing. -/
inductive Subject where
  | each (field : String)
  | present (field : String)
  deriving DecidableEq

structure Block where
  subject : Subject
  /-- The block introduces the name. -/
  binds : Bool
  deriving DecidableEq

/-- How an item is written. -/
inductive Way where
  | accessor
  | display
  | other
  deriving DecidableEq

/-- What code does with the name, in the order of the text. -/
inductive Mark where
  | opens (block : Block)
  | use (way : Way)
  | closes
  deriving DecidableEq

/-- A use of the name, with the blocks around it. The innermost comes first, and each has its number
in the order in which blocks are opened. -/
structure Use where
  way : Way
  around : List (Nat × Block)

/-- The block that a use stands for. -/
def Use.binder? (use : Use) : Option Nat :=
  (use.around.find? (·.2.binds)).map (·.1)

/-- The blocks of the code, in the order in which they are opened. -/
def blocks : List Mark → List Block
  | [] => []
  | .opens block :: rest => block :: blocks rest
  | .use _ :: rest | .closes :: rest => blocks rest

/-- The uses in code that stands inside of blocks, `next` being the number of the next block. -/
def usesInside (next : Nat) (around : List (Nat × Block)) : List Mark → List Use
  | [] => []
  | .opens block :: rest => usesInside (next + 1) ((next, block) :: around) rest
  | .use way :: rest => ⟨way, around⟩ :: usesInside next around rest
  | .closes :: rest => usesInside next around.tail rest

def uses (marks : List Mark) : List Use :=
  usesInside 0 [] marks

/-! ### Tidy code -/

variable {fits : Subject → Way} {way : Way} {own : Bool} {marks front back inner rest : List Mark}
  {block : Block} {subject : Subject} {use : Use} {next n : Nat} {around : List (Nat × Block)}

/-- Code whose blocks are closed again and introduce the name exactly if they use it themselves, in
the way that fits them. The flag tells whether the code uses the name outside of its blocks, where
it does so in the given way. -/
inductive Tidy (fits : Subject → Way) : Way → Bool → List Mark → Prop
  | nil {way : Way} : Tidy fits way false []
  | use {way : Way} {own : Bool} {rest : List Mark} (later : Tidy fits way own rest) :
    Tidy fits way true (.use way :: rest)
  | block {way : Way} {subject : Subject} {inside own : Bool} {inner rest : List Mark}
    (body : Tidy fits (fits subject) inside inner) (later : Tidy fits way own rest) :
    Tidy fits way own (.opens ⟨subject, inside⟩ :: (inner ++ .closes :: rest))

theorem blocks_append : blocks (front ++ back) = blocks front ++ blocks back := by
  induction front with
  | nil => rfl
  | cons mark rest ih => cases mark <;> simp [blocks, ih]

/-- What follows tidy code is again inside of the same blocks. -/
theorem Tidy.usesInside_append (tidy : Tidy fits way own marks) :
    usesInside next around (marks ++ back) =
      usesInside next around marks ++ usesInside (next + (blocks marks).length) around back := by
  induction tidy generalizing next around back with
  | nil => rfl
  | use _ ih => simp [usesInside, blocks, ih]
  | block _ _ inside later =>
    simp only [List.cons_append, List.append_assoc, usesInside, blocks, inside, later,
      List.tail_cons, blocks_append, List.length_cons, List.length_append]
    congr 3
    omega

theorem Tidy.usesInside_block (body : Tidy fits way own inner) :
    usesInside next around (.opens block :: (inner ++ .closes :: rest)) =
      usesInside (next + 1) ((next, block) :: around) inner ++
        usesInside (next + 1 + (blocks inner).length) around rest := by
  rw [usesInside, body.usesInside_append, usesInside, List.tail_cons]

theorem Tidy.append {other : Bool} (first : Tidy fits way own front)
    (second : Tidy fits way other back) : Tidy fits way (own || other) (front ++ back) := by
  induction first with
  | nil => simpa using second
  | use _ ih => exact .use (ih second)
  | block body _ _ ih =>
    rw [List.cons_append, List.append_assoc, List.cons_append]
    exact .block body (ih second)

/-! ### Where uses belong -/

/-- The use is in a block that introduces the name, and is written in the way that fits it. -/
def Use.Settled (fits : Subject → Way) (use : Use) : Prop :=
  ∃ n block outer, use.around = (n, block) :: outer ∧ block.binds = true ∧
    use.way = fits block.subject

theorem Use.binder?_eq_of_binds {outer : List (Nat × Block)}
    (inside : use.around = (n, block) :: outer) (binds : block.binds = true) :
    use.binder? = some n := by
  rw [binder?, inside, List.find?_cons_of_pos (by exact binds), Option.map_some]

/-- Uses are settled if those outside of all blocks of the code are. -/
theorem Tidy.settled (tidy : Tidy fits way own marks)
    (top : own = true → Use.Settled fits ⟨way, around⟩)
    (member : use ∈ usesInside next around marks) : use.Settled fits := by
  induction tidy generalizing next around with
  | nil => cases member
  | @use way own rest later ih =>
    rcases List.mem_cons.mp member with rfl | member
    · exact top rfl
    · exact ih (fun _ => top rfl) member
  | @block way subject inside own inner rest body later ihBody ihLater =>
    rw [body.usesInside_block] at member
    rcases List.mem_append.mp member with member | member
    -- If the block has uses of its own, it introduces the name, and they are settled there.
    · exact ihBody (fun uses => ⟨next, ⟨subject, inside⟩, around, rfl, uses, rfl⟩) member
    · exact ihLater top member

theorem Tidy.exists_own_use (tidy : Tidy fits way own marks) (uses : own = true) :
    ∃ use ∈ usesInside next around marks, use.around = around := by
  induction tidy generalizing next around with
  | nil => cases uses
  | use => exact ⟨_, List.mem_cons_self, rfl⟩
  | block body _ _ ih =>
    obtain ⟨use, member, same⟩ := ih uses
    exact ⟨use, body.usesInside_block ▸ List.mem_append_right _ member, same⟩

/-- A block that introduces the name has a use of its own. -/
theorem Tidy.exists_use_of_binds (tidy : Tidy fits way own marks)
    (found : (blocks marks)[n]? = some block) (binds : block.binds = true) :
    ∃ use ∈ usesInside next around marks, ∃ outer, use.around = (next + n, block) :: outer := by
  induction tidy generalizing next around n with
  | nil => cases found
  | use _ ih =>
    obtain ⟨use, member, inside⟩ := ih found
    exact ⟨use, List.mem_cons_of_mem _ member, inside⟩
  | @block way subject inside own inner rest body later ihBody ihLater =>
    rw [body.usesInside_block]
    rw [blocks, blocks_append, blocks] at found
    cases n with
    | zero =>
      obtain rfl := Option.some.inj found
      obtain ⟨use, member, same⟩ := body.exists_own_use binds
      exact ⟨use, List.mem_append_left _ member, around, same⟩
    | succ n =>
      rw [List.getElem?_cons_succ, List.getElem?_append] at found
      split at found
      next =>
        obtain ⟨use, member, outer, same⟩ := ihBody found
        exact ⟨use, List.mem_append_left _ member, outer, by rw [same, Nat.add_right_comm]; rfl⟩
      next beyond =>
        obtain ⟨use, member, outer, same⟩ := ihLater found
        refine ⟨use, List.mem_append_right _ member, outer, ?_⟩
        rw [same]
        congr 2
        omega

/-- The blocks around a use are those that were open before, and blocks of the code with their
numbers. -/
theorem mem_around_or_exists_block (member : use ∈ usesInside next around marks)
    (inside : (n, block) ∈ use.around) :
    (n, block) ∈ around ∨ ∃ i, n = next + i ∧ (blocks marks)[i]? = some block := by
  induction marks generalizing next around with
  | nil => cases member
  | cons mark rest ih =>
    cases mark with
    | opens first =>
      rcases ih member with open' | ⟨i, rfl, found⟩
      · rcases List.mem_cons.mp open' with same | before
        · cases same
          exact .inr ⟨0, rfl, rfl⟩
        · exact .inl before
      · exact .inr ⟨i + 1, by omega, found⟩
    | use way =>
      rcases List.mem_cons.mp member with rfl | member
      · exact .inl inside
      · exact ih member
    | closes => exact (ih member).imp_left List.mem_of_mem_tail

end Scoping

/-! ### Programs -/

open Scoping

/-- What a program does with items, in the order of its steps. -/
inductive ItemStep where
  | enters (subject : Subject)
  | item
  | leaves
  deriving DecidableEq

mutual

def RenderOp.itemSteps : RenderOp → List ItemStep
  | .literal _ | .field _ => []
  | .item => [.item]
  | .forEach field body _ => .enters (.each field) :: (itemStepsOf body ++ [.leaves])
  | .ifPresent field body => .enters (.present field) :: (itemStepsOf body ++ [.leaves])

def itemStepsOf : List RenderOp → List ItemStep
  | [] => []
  | op :: rest => op.itemSteps ++ itemStepsOf rest

end

/-- The step that a mark stands for. -/
def Scoping.Mark.step : Mark → ItemStep
  | opens block => .enters block.subject
  | use _ => .item
  | closes => .leaves

/-- How the item of a block is written: only an optional token goes through its accessor. -/
def Node.wayIn (node : Node) : Subject → Way
  | .each _ => .display
  | .present field =>
    if (node.field? field).map (·.type) = some .optionalToken then .accessor else .display

/-- The marks are those of the program, whose own uses of the item are written in the given way. -/
structure Traces (node : Node) (way : Way) (ops : List RenderOp) (marks : List Mark) : Prop where
  tidy : Tidy node.wayIn way (bindsItem ops) marks
  steps : marks.map Mark.step = itemStepsOf ops

namespace Traces

variable {node : Node} {way : Way} {op : RenderOp} {ops rest : List RenderOp}
  {marks front back inner : List Mark} {name : String}

theorem nil : Traces node way [] [] :=
  ⟨.nil, rfl⟩

theorem append (first : Traces node way [op] front) (later : Traces node way rest back) :
    Traces node way (op :: rest) (front ++ back) where
  tidy := by
    have both := first.tidy.append later.tidy
    rw [bindsItem_cons] at both ⊢
    simpa [bindsItem] using both
  steps := by
    have own := first.steps
    rw [itemStepsOf, itemStepsOf, List.append_nil] at own
    rw [List.map_append, own, later.steps, itemStepsOf]

theorem literal (text : String) : Traces node way [.literal text] [] :=
  ⟨.nil, rfl⟩

theorem field (name : String) : Traces node way [.field name] [] :=
  ⟨.nil, rfl⟩

theorem item : Traces node way [.item] [.use way] :=
  ⟨.use .nil, rfl⟩

theorem forEach {separator : String} (body : Traces node .display ops inner) :
    Traces node way [.forEach name ops separator]
      (.opens ⟨.each name, bindsItem ops⟩ :: (inner ++ [.closes])) where
  tidy := .block body.tidy .nil
  steps := by simp [itemStepsOf, RenderOp.itemSteps, Mark.step, body.steps]

theorem ifPresent (body : Traces node (node.wayIn (.present name)) ops inner) :
    Traces node way [.ifPresent name ops]
      (.opens ⟨.present name, bindsItem ops⟩ :: (inner ++ [.closes])) where
  tidy := .block body.tidy .nil
  steps := by simp [itemStepsOf, RenderOp.itemSteps, Mark.step, body.steps]

end Traces

/-- Code treats the items of a program as the program means them. -/
structure ItemsBound (node : Node) (ops : List RenderOp) (marks : List Mark) : Prop where
  /-- The blocks and the uses are those of the program, in its order and nesting. -/
  steps : marks.map Mark.step = itemStepsOf ops
  /-- A block introduces the name exactly if some use stands for that block. -/
  introduces : ∀ n block, (blocks marks)[n]? = some block →
    (block.binds = true ↔ ∃ use ∈ uses marks, use.binder? = some n)
  /-- A use stands for the innermost block around it, and is written in the way of that block. -/
  resolves : ∀ use ∈ uses marks, ∃ n block, use.around.head? = some (n, block) ∧
    (blocks marks)[n]? = some block ∧ use.binder? = some n ∧ use.way = node.wayIn block.subject

theorem Traces.itemsBound {node : Node} {way : Way} {ops : List RenderOp} {marks : List Mark}
    (traces : Traces node way ops marks) (closed : bindsItem ops = false) :
    ItemsBound node ops marks where
  steps := traces.steps
  introduces := by
    intro n block found
    constructor
    · intro binds
      obtain ⟨use, member, outer, inside⟩ := traces.tidy.exists_use_of_binds found binds
      rw [Nat.zero_add] at inside
      exact ⟨use, member, Use.binder?_eq_of_binds inside binds⟩
    · rintro ⟨use, member, resolved⟩
      obtain ⟨⟨m, other⟩, visible, rfl⟩ := Option.map_eq_some_iff.mp resolved
      rcases mem_around_or_exists_block member (List.mem_of_find?_eq_some visible) with
        impossible | ⟨i, same, known⟩
      · cases impossible
      · obtain rfl : m = i := same.trans (Nat.zero_add i)
        obtain rfl := Option.some.inj (found.symm.trans known)
        have binds := List.find?_some visible
        exact binds
  resolves := by
    intro use member
    have noneOutside (uses : bindsItem ops = true) : Use.Settled node.wayIn ⟨way, []⟩ :=
      absurd uses (by rw [closed]; exact Bool.false_ne_true)
    obtain ⟨n, block, outer, inside, binds, written⟩ := traces.tidy.settled noneOutside member
    have among : (n, block) ∈ use.around := inside ▸ List.mem_cons_self
    rcases mem_around_or_exists_block member among with impossible | ⟨i, same, known⟩
    · cases impossible
    · obtain rfl : n = i := same.trans (Nat.zero_add i)
      exact ⟨n, block, by rw [inside, List.head?_cons], known,
        Use.binder?_eq_of_binds inside binds, written⟩

end TreeSchema
