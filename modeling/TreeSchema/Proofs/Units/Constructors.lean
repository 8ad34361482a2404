import TreeSchema.Proofs.Units.Closure

/-!
Reading the constructors of a unit: what each of them builds. Building a record at once and wrapping
a bare one later put the same record into the same variant.
-/

namespace TreeSchema

open Source

namespace Source

/-! ### Reading -/

/-- What a constructor gives back: its own record, a record from parameters that are called like its
fields, or one of these in a variant. -/
inductive Built where
  | self
  | literal (name : String) (fields : List String)
  | variant (union tag : String) (record : Built)
  deriving DecidableEq

/-- The fields of a record that is written out. -/
def readFields? (code : List Char) : Option (List String) :=
  if code = [] then some [] else (splitNames code).mapM name?

def readRecord? (code : List Char) : Option Built :=
  if code = "self".toList then some .self
  else
    ((between? " \x7b " " \x7d" (code.dropWhile inName)).bind readFields?).map
      (.literal (String.ofList (code.takeWhile inName)))

/-- A record, or a variant with a record that is put into the arena. -/
def readBuilt? (code : List Char) : Option Built :=
  match (code.dropWhile inName).dropPrefix? "::".toList with
  | some variant =>
    ((between? "(arena.alloc(" "))" (variant.dropWhile inName)).bind readRecord?).map
      (.variant (String.ofList (code.takeWhile inName)) (String.ofList (variant.takeWhile inName)))
  | none => readRecord? code

/-- The only line in the body of a function whose first line starts so. -/
def bodyOf? (start : String) (lines : List String) : Option (List Char) :=
  ((lines.dropWhile fun line => !start.toList.isPrefixOf line.toList)[1]?).map afterIndent

/-- What the function of this name builds. -/
def readConstructor? (function : String) (lines : List String) : Option Built :=
  (bodyOf? ("    pub fn " ++ function) lines).bind readBuilt?

/-! ### What is read -/

variable {name tag union start line body : String} {fields lines : List String} {record : Record}

theorem readFields?_commaSeparated (areNames : ∀ field ∈ fields, PlainName field)
    (shown : ∀ field ∈ fields, field ≠ "") :
    readFields? (commaSeparated fields).toList = some fields := by
  cases fields with
  | nil => rfl
  | cons first others =>
    have nonempty : (commaSeparated (first :: others)).toList ≠ [] := by
      have isShown := shown first List.mem_cons_self
      cases others <;> simp [commaSeparated, isShown]
    rw [readFields?, if_neg nonempty, splitNames_commaSeparated areNames (List.cons_ne_nil _ _),
      mapM_name? areNames]

theorem toList_literal (name : String) (fields : List String) :
    (name ++ " \x7b " ++ commaSeparated fields ++ " \x7d").toList = name.toList ++
      (" \x7b ".toList ++ ((commaSeparated fields).toList ++ " \x7d".toList)) := by
  simp

theorem readRecord?_literal (isName : PlainName name) (areNames : ∀ field ∈ fields, PlainName field)
    (shown : ∀ field ∈ fields, field ≠ "") :
    readRecord? (name ++ " \x7b " ++ commaSeparated fields ++ " \x7d").toList =
      some (.literal name fields) := by
  have other : name.toList ++
      (" \x7b ".toList ++ ((commaSeparated fields).toList ++ " \x7d".toList)) ≠ "self".toList := by
    intro same
    have space : ' ' ∈ "self".toList := by
      rw [← same]
      simp
    exact absurd space (by decide)
  obtain ⟨named, after⟩ := name_ends isName
    (" \x7b ".toList ++ ((commaSeparated fields).toList ++ " \x7d".toList)) rfl
  rw [toList_literal, readRecord?, if_neg other, named, after, between?_append, Option.bind_some,
    readFields?_commaSeparated areNames shown, Option.map_some]

theorem readBuilt?_variant {value : String} {built : Built} (isUnion : PlainName union)
    (isTag : PlainName tag) (read : readRecord? value.toList = some built) :
    readBuilt? (union ++ "::" ++ tag ++ "(" ++ arenaParameter ++ ".alloc(" ++ value ++
      "))").toList = some (.variant union tag built) := by
  have code : (union ++ "::" ++ tag ++ "(" ++ arenaParameter ++ ".alloc(" ++ value ++
      "))").toList = union.toList ++ ("::".toList ++ (tag.toList ++
        ("(arena.alloc(".toList ++ (value.toList ++ "))".toList)))) := by
    simp [arenaParameter]
  obtain ⟨named, after⟩ := name_ends isUnion ("::".toList ++ (tag.toList ++
    ("(arena.alloc(".toList ++ (value.toList ++ "))".toList)))) rfl
  obtain ⟨tagged, rest⟩ := name_ends isTag
    ("(arena.alloc(".toList ++ (value.toList ++ "))".toList)) rfl
  rw [code, readBuilt?, named, after, List.dropPrefix?_append_of_beq _ (beq_self_eq_true _)]
  simp only [tagged, rest, between?_append, Option.bind_some, read, Option.map_some]

/-- What stands alone is a record. -/
theorem readBuilt?_literal (isName : PlainName name) (areNames : ∀ field ∈ fields, PlainName field)
    (shown : ∀ field ∈ fields, field ≠ "") :
    readBuilt? (name ++ " \x7b " ++ commaSeparated fields ++ " \x7d").toList =
      some (.literal name fields) := by
  have bare : ((name ++ " \x7b " ++ commaSeparated fields ++ " \x7d").toList.dropWhile
      inName).dropPrefix? "::".toList = none := by
    rw [toList_literal, (name_ends isName _ rfl).2]
    rfl
  rw [readBuilt?, bare]
  exact readRecord?_literal isName areNames shown

/-- The bodies of the constructors. -/
theorem bodyOf?_constructors (file : File) (record : Record) :
    let lines := record.constructors file
    let literal := record.name ++ " \x7b " ++ commaSeparated (record.fields.map (·.1)) ++ " \x7d"
    let variant (value : String) := file.union ++ "::" ++ record.tag ++ "(" ++ arenaParameter ++
      ".alloc(" ++ value ++ "))"
    bodyOf? "    pub fn new" lines = some (afterIndent (indented 2 (variant literal))) ∧
      bodyOf? "    pub fn record" lines = some (afterIndent (indented 2
        ("Self \x7b " ++ commaSeparated (record.fields.map (·.1)) ++ " \x7d"))) ∧
      bodyOf? ("    pub fn into_" ++ file.module) lines =
        some (afterIndent (indented 2 (variant "self"))) := by
  refine ⟨?_, ?_, ?_⟩
  · simp [Record.constructors, bodyOf?, indented, List.isPrefixOf]
  · simp [Record.constructors, bodyOf?, indented, List.isPrefixOf]
  · simp [Record.constructors, bodyOf?, indented, List.isPrefixOf]

/-- What is built in the union starts with its name. -/
theorem afterIndent_variant (isUnion : PlainName union) (depth : Nat) (tag value : String) :
    afterIndent (indented depth (union ++ "::" ++ tag ++ "(" ++ arenaParameter ++ ".alloc(" ++
      value ++ "))")) = (union ++ "::" ++ tag ++ "(" ++ arenaParameter ++ ".alloc(" ++ value ++
        "))").toList := by
  refine afterIndent_indented fun starts => ?_
  cases chars : union.toList with
  | nil => simp [chars] at starts
  | cons c rest =>
    obtain rfl : c = ' ' := by simpa [chars] using starts
    exact isUnion.not_mem (c := ' ') (by decide) (chars ▸ List.mem_cons_self)

namespace File.Legible

variable {file : File} (legible : file.Legible) (among : record ∈ file.records)
  (shown : ∀ field ∈ record.fields, field.1 ≠ "")
include legible among shown

/-- What the constructors of a record build. -/
theorem readConstructor?_constructors :
    let lines := record.constructors file
    let fields := record.fields.map (·.1)
    readConstructor? "new" lines =
        some (.variant file.union record.tag (.literal record.name fields)) ∧
      readConstructor? "record" lines = some (.literal "Self" fields) ∧
      readConstructor? ("into_" ++ file.module) lines =
        some (.variant file.union record.tag .self) := by
  obtain ⟨new, bare, into⟩ := bodyOf?_constructors file record
  have isLegible := legible.records record among
  have areNames : ∀ field ∈ record.fields.map (·.1), PlainName field :=
    List.forall_mem_map.mpr isLegible.fields
  have areShown : ∀ field ∈ record.fields.map (·.1), field ≠ "" :=
    List.forall_mem_map.mpr shown
  have literal := readRecord?_literal isLegible.name areNames areShown
  refine ⟨?_, ?_, ?_⟩
  · have start : "    pub fn " ++ "new" = "    pub fn new" := rfl
    rw [readConstructor?, start, new, afterIndent_variant legible.union, Option.bind_some,
      readBuilt?_variant legible.union isLegible.tag literal]
  · have start : "    pub fn " ++ "record" = "    pub fn record" := rfl
    have opens : "Self \x7b " = "Self" ++ " \x7b " := rfl
    rw [readConstructor?, start, bare, afterIndent_indented (by simp), Option.bind_some, opens,
      readBuilt?_literal (by decide) areNames areShown]
  · have start : "    pub fn " ++ ("into_" ++ file.module) = "    pub fn into_" ++ file.module := by
      rw [← String.append_assoc]
      rfl
    rw [readConstructor?, start, into, afterIndent_variant legible.union, Option.bind_some]
    exact readBuilt?_variant legible.union isLegible.tag rfl

end File.Legible

end Source

/-! ### Units -/

theorem ne_empty_of_accepts {style : NameStyle} {name : String}
    (written : style.accepts name = true) : name ≠ "" := by
  rintro rfl
  cases style <;> cases written

/-- The lines are those of the constructors for the node, as the unit of the union `union` has them:
one builds the node's variant, one a bare record, and one the variant of a bare record. -/
structure SourceUnit.HasConstructors (unit : SourceUnit) (union : String) (node : Node)
    (lines : List String) : Prop where
  stands : unit.HasLines lines
  head : lines.head? = some ("impl" ++ lifetimeText node.needsLifetime ++ " " ++ node.name ++
    lifetimeText node.needsLifetime ++ " \x7b")
  new : readConstructor? "new" lines =
    some (.variant union node.tag (.literal node.name (node.fields.map (·.name))))
  record : readConstructor? "record" lines = some (.literal "Self" (node.fields.map (·.name)))
  into : readConstructor? ("into_" ++ unit.module) lines = some (.variant union node.tag .self)

/-- Every node of an accepted schema has its constructors in the unit of its category. -/
theorem Schema.exists_constructors {schema : Schema} {index : Index}
    (checked : schema.check = .ok index) :
    ∃ units, schema.units = .ok units ∧
      ∀ (c : Nat) (category : Category), schema.categories[c]? = some category →
        ∃ unit, units[c]? = some unit ∧ ∀ node ∈ category.nodes,
          ∃ lines, unit.HasConstructors category.name node lines := by
  have wellFormed := wellFormed_of_check checked
  obtain ⟨files, made, hasFiles⟩ := exists_files checked
  refine ⟨_, units_eq_ok_iff.mpr ⟨files, made, rfl⟩, fun c category found => ?_⟩
  obtain ⟨file, place, isOf⟩ := hasFiles.exists_file found
  refine ⟨file.unit, by rw [List.getElem?_map, place, Option.map_some], fun node member => ?_⟩
  obtain ⟨n, inside⟩ := List.mem_iff_getElem?.mp member
  obtain ⟨record, among, isRecord⟩ := isOf.exists_record inside
  have named := (wellFormed.categories category (List.mem_of_getElem? found)).nodes node member
  have shown : ∀ field ∈ record.fields, field.1 ≠ "" := by
    rw [isRecord.fields, List.forall_mem_map]
    exact fun field inside => ne_empty_of_accepts (named.fields field inside).written
  have fields : record.fields.map (·.1) = node.fields.map (·.name) := by
    rw [isRecord.fields, List.map_map]
    rfl
  have stands : record.constructors file <:+: file.lines :=
    (List.infix_append _ _ _).trans (File.record_infix among)
  obtain ⟨new, bare, into⟩ :=
    (wellFormed.legible isOf found).readConstructor?_constructors among shown
  rw [fields, isOf.union, isRecord.tag, isRecord.name] at new
  rw [fields] at bare
  rw [isOf.union, isRecord.tag] at into
  refine ⟨_, File.hasLines_of_infix stands, ?_, new, bare, into⟩
  rw [← isRecord.name, ← isRecord.lifetime]
  rfl

end TreeSchema
