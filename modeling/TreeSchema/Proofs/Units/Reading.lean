import TreeSchema.Proofs.Render.Reading
import TreeSchema.Proofs.Units.Declarations

/-!
Reading a unit from its lines: what it uses from elsewhere, the heads of its items, and its fields.
The reader knows the language and not the schema.
-/

namespace TreeSchema

open Source

namespace Source

/-! ### Reading lines -/

/-- What the head of an item is for. The head of a variant is the whole variant. -/
inductive HeadKind where
  | union
  | variant
  | record
  | constructors
  | display
  deriving DecidableEq

/-- What a line of a unit says, outside of bodies. -/
inductive UnitLine where
  | use (path : String)
  | head (kind : HeadKind) (name : String) (lifetime : Bool)
  | field (name type : String)
  deriving DecidableEq

/-- A name with or without the lifetime after it. -/
def readHead? (kind : HeadKind) (lifetime : String) (code : List Char) : Option UnitLine :=
  let name := String.ofList (code.takeWhile inName)
  let after := code.dropWhile inName
  if after = [] then some (.head kind name false)
  else if after = lifetime.toList then some (.head kind name true)
  else none

def readVariant? (code : List Char) : Option UnitLine :=
  ((code.dropWhile inName).dropPrefix? "(&'a ".toList).bind (readHead? .variant "<'a>")

def readField? (code : List Char) : Option UnitLine :=
  ((code.dropWhile inName).dropPrefix? ": ".toList).map fun type =>
    .field (String.ofList (code.takeWhile inName)) (String.ofList type)

def readUnitLine? (code : List Char) : Option UnitLine :=
  if let some path := between? "use " ";" code then some (.use (String.ofList path))
  else if let some head := between? "pub enum " " \x7b" code then readHead? .union "<'a>" head
  else if let some head := between? "pub struct " " \x7b" code then readHead? .record "<'a>" head
  else if let some head := between? "impl fmt::Display for " " \x7b" code then
    readHead? .display "<'_>" head
  else if let some head := between? "impl<'a> " "<'a> \x7b" code then
    (name? head).map (.head .constructors · true)
  else if let some head := between? "impl " " \x7b" code then
    (name? head).map (.head .constructors · false)
  else if let some field := between? "    pub " "," code then readField? field
  else if let some variant := between? "    " ")," code then readVariant? variant
  else none

def readUnit (lines : List String) : List UnitLine :=
  lines.filterMap fun line => readUnitLine? line.toList

end Source

/-! ### Lines -/

namespace Source

variable {name tag mark type line : String} {code : List Char} {c : Char}

theorem PlainName.readHead? (isName : PlainName name) (kind : HeadKind) (lifetime : Bool)
    (nonempty : mark.toList ≠ []) (starts : mark.toList.head?.any inName = false) :
    Source.readHead? kind mark (name ++ if lifetime then mark else "").toList =
      some (.head kind name lifetime) := by
  have ends : (if lifetime then mark else "").toList.head?.any inName = false := by
    cases lifetime with
    | false => rfl
    | true => exact starts
  obtain ⟨named, after⟩ := name_ends isName _ ends
  rw [Source.readHead?, String.toList_append]
  simp only [named, after]
  cases lifetime with
  | false => rfl
  | true => rw [if_pos rfl, if_neg nonempty, if_pos rfl]

/-- A name that is followed by something else does not start with a longer text. -/
theorem PlainName.dropPrefix?_eq_none (isName : PlainName name) (word : List Char) (c : Char)
    (others rest : List Char) (letters : word.all inName = true) (stops : inName c = false)
    (next : rest.head? ≠ some c) (ends : rest.head?.any inName = false) :
    (name.toList ++ rest).dropPrefix? (word ++ c :: others) = none := by
  refine Option.eq_none_iff_forall_ne_some.mpr fun after found => next ?_
  obtain ⟨front, split, same⟩ := List.dropPrefix?_eq_some_iff.mp found
  obtain rfl := eq_of_beq same
  have dropped := (name_ends isName _ ends).2
  rw [split, List.append_assoc, List.dropWhile_append_of_pos (List.all_eq_true.mp letters),
    List.cons_append, List.dropWhile_cons_of_neg (by simp [stops])] at dropped
  rw [← dropped, List.head?_cons]

theorem between?_eq_none_of_last (start tail : String) (ends : code.getLast? = some c)
    (other : tail ≠ "" ∧ tail.toList.getLast? ≠ some c) : between? start tail code = none := by
  refine Option.eq_none_iff_forall_ne_some.mpr fun inner found => other.2 ?_
  obtain rfl := between?_eq_some_iff.mp found
  have nonempty : tail.toList ≠ [] := by
    simpa using other.1
  rwa [← List.append_assoc, List.getLast?_append_of_ne_nil _ nonempty] at ends

theorem readUnitLine?_use (path : String) :
    readUnitLine? ("use " ++ path ++ ";").toList = some (.use path) := by
  have found := between?_append "use " ";" path.toList
  rw [String.append_assoc, String.toList_append, String.toList_append, readUnitLine?, found]
  simp only [String.ofList_toList]

/-- A line with a head between a start and a brace. -/
theorem readUnitLine?_head (start mark : String) (kind : HeadKind) (isName : PlainName name)
    (lifetime : Bool) (nonempty : mark.toList ≠ [])
    (starts : mark.toList.head?.any inName = false)
    (known : ∀ head : List Char, readUnitLine? (start.toList ++ (head ++ " \x7b".toList)) =
      readHead? kind mark head) :
    readUnitLine? (start ++ name ++ (if lifetime then mark else "") ++ " \x7b").toList =
      some (.head kind name lifetime) := by
  have code : (start ++ name ++ (if lifetime then mark else "") ++ " \x7b").toList =
      start.toList ++ ((name ++ if lifetime then mark else "").toList ++ " \x7b".toList) := by
    simp
  rw [code, known]
  exact isName.readHead? kind lifetime nonempty starts

theorem readUnitLine?_union (isName : PlainName name) :
    readUnitLine? ("pub enum " ++ name ++ "<'a> \x7b").toList =
      some (.head .union name true) := by
  have line : "pub enum " ++ name ++ "<'a> \x7b" =
      "pub enum " ++ name ++ (if true then "<'a>" else "") ++ " \x7b" := by
    simp [String.append_assoc]
  rw [line]
  refine readUnitLine?_head "pub enum " "<'a>" .union isName true (by decide) (by decide)
    fun head => ?_
  rw [readUnitLine?, between?_append "pub enum " " \x7b" head]
  rfl

theorem readUnitLine?_record (isName : PlainName name) (lifetime : Bool) :
    readUnitLine? ("pub struct " ++ name ++ lifetimeText lifetime ++ " \x7b").toList =
      some (.head .record name lifetime) := by
  refine readUnitLine?_head "pub struct " "<'a>" .record isName lifetime (by decide) (by decide)
    fun head => ?_
  rw [readUnitLine?, between?_append "pub struct " " \x7b" head]
  rfl

theorem readUnitLine?_display (isName : PlainName name) (lifetime : Bool) :
    readUnitLine? ("impl fmt::Display for " ++ name ++ (if lifetime then "<'_>" else "") ++
      " \x7b").toList = some (.head .display name lifetime) := by
  refine readUnitLine?_head "impl fmt::Display for " "<'_>" .display isName lifetime (by decide)
    (by decide) fun head => ?_
  rw [readUnitLine?, between?_append "impl fmt::Display for " " \x7b" head]
  rfl

theorem readUnitLine?_constructors (isName : PlainName name) (lifetime : Bool) :
    readUnitLine? ("impl" ++ lifetimeText lifetime ++ " " ++ name ++ lifetimeText lifetime ++
      " \x7b").toList = some (.head .constructors name lifetime) := by
  cases lifetime with
  | true =>
    have code : ("impl" ++ lifetimeText true ++ " " ++ name ++ lifetimeText true ++
        " \x7b").toList = "impl<'a> ".toList ++ (name.toList ++ "<'a> \x7b".toList) := by
      simp [lifetimeText]
    have found := between?_append "impl<'a> " "<'a> \x7b" name.toList
    have line : readUnitLine? ("impl<'a> ".toList ++ (name.toList ++ "<'a> \x7b".toList)) =
        (name? name.toList).map (.head .constructors · true) := by
      rw [readUnitLine?, found]
      rfl
    rw [code, line, name?_eq isName, Option.map_some]
  | false =>
    have code : ("impl" ++ lifetimeText false ++ " " ++ name ++ lifetimeText false ++
        " \x7b").toList = "impl ".toList ++ (name.toList ++ " \x7b".toList) := by
      simp [lifetimeText]
    have found := between?_append "impl " " \x7b" name.toList
    have noDisplay : between? "impl fmt::Display for " " \x7b"
        ("impl ".toList ++ (name.toList ++ " \x7b".toList)) = none := by
      have other : ("impl ".toList ++ (name.toList ++ " \x7b".toList)).dropPrefix?
          "impl fmt::Display for ".toList = none :=
        isName.dropPrefix?_eq_none "fmt".toList ':' ":Display for ".toList " \x7b".toList
          (by decide) (by decide) (by decide) rfl
      rw [between?, other, Option.bind_none]
    have line : readUnitLine? ("impl ".toList ++ (name.toList ++ " \x7b".toList)) =
        (name? name.toList).map (.head .constructors · false) := by
      rw [readUnitLine?, noDisplay, found]
      rfl
    rw [code, line, name?_eq isName, Option.map_some]

theorem readUnitLine?_field (isName : PlainName name) (type : String) :
    readUnitLine? ("    " ++ ("pub " ++ (name ++ ": " ++ type) ++ ",")).toList =
      some (.field name type) := by
  have code : ("    " ++ ("pub " ++ (name ++ ": " ++ type) ++ ",")).toList =
      "    pub ".toList ++ ((name ++ ": " ++ type).toList ++ ",".toList) := by
    simp
  have found := between?_append "    pub " "," (name ++ ": " ++ type).toList
  have field : readField? (name ++ ": " ++ type).toList = some (.field name type) := by
    obtain ⟨named, after⟩ := name_ends isName (": ".toList ++ type.toList) rfl
    rw [String.append_assoc, String.toList_append, String.toList_append, readField?, after,
      List.dropPrefix?_append_of_beq _ (beq_self_eq_true _), Option.map_some, named,
      String.ofList_toList]
  rw [code, readUnitLine?, found]
  exact field

theorem readUnitLine?_variant (isTag : PlainName tag) (isName : PlainName name) (lifetime : Bool) :
    readUnitLine? ("    " ++ (tag ++ "(&'a " ++ name ++ lifetimeText lifetime ++ "),")).toList =
      some (.head .variant name lifetime) := by
  let head := name ++ lifetimeText lifetime
  have code : ("    " ++ (tag ++ "(&'a " ++ name ++ lifetimeText lifetime ++ "),")).toList =
      "    ".toList ++ ((tag.toList ++ ("(&'a ".toList ++ head.toList)) ++ "),".toList) := by
    simp [head]
  have found := between?_append "    " ")," (tag.toList ++ ("(&'a ".toList ++ head.toList))
  have noField : between? "    pub " "," ("    ".toList ++
      ((tag.toList ++ ("(&'a ".toList ++ head.toList)) ++ "),".toList)) = none := by
    have other : ("    ".toList ++ ((tag.toList ++ ("(&'a ".toList ++ head.toList)) ++
        "),".toList)).dropPrefix? "    pub ".toList = none := by
      rw [List.append_assoc]
      exact isTag.dropPrefix?_eq_none "pub".toList ' ' [] _ (by decide) (by decide) (by simp)
        (by simp [inName, Text.isAlphanumeric])
    rw [between?, other, Option.bind_none]
  have variant : readVariant? (tag.toList ++ ("(&'a ".toList ++ head.toList)) =
      some (.head .variant name lifetime) := by
    obtain ⟨-, after⟩ := name_ends isTag ("(&'a ".toList ++ head.toList) rfl
    rw [readVariant?, after, List.dropPrefix?_append_of_beq _ (beq_self_eq_true _),
      Option.bind_some]
    exact isName.readHead? .variant lifetime (by decide) (by decide)
  rw [code, readUnitLine?, noField, found]
  exact variant

/-! ### Lines that say nothing -/

theorem readUnitLine?_indented (depth : Nat) (text : String) :
    readUnitLine? (indented (depth + 2) text).toList = none := by
  have code : (indented (depth + 2) text).toList =
      "    ".toList ++ ("    ".toList ++ (indented depth text).toList) := by
    simp [indented, List.replicate_succ]
  rw [code, readUnitLine?]
  cases found : between? "    " ")," ("    ".toList ++ ("    ".toList ++
      (indented depth text).toList)) with
  | none => rfl
  | some inner =>
    have split := List.append_cancel_left (between?_eq_some_iff.mp found)
    cases inner with
    | nil => simp at split
    | cons c others =>
      obtain ⟨rfl, -⟩ := List.cons.inj split
      rfl

/-- A line that opens a body. -/
theorem readUnitLine?_opens (front tail : String) (ends : tail.toList.getLast? = some '\x7b') :
    readUnitLine? (indented 1 (front ++ tail)).toList = none := by
  have code : (indented 1 (front ++ tail)).toList =
      "    ".toList ++ (front.toList ++ tail.toList) := by
    simp [indented]
  have last : ("    ".toList ++ (front.toList ++ tail.toList)).getLast? = some '\x7b' := by
    rw [List.getLast?_append, List.getLast?_append, ends, Option.some_or, Option.some_or]
  have noField := between?_eq_none_of_last "    pub " "," last (by decide)
  have noVariant := between?_eq_none_of_last "    " ")," last (by decide)
  rw [code, readUnitLine?, noField, noVariant]
  rfl

/-! ### Sections -/

section Sections

variable {lines others : List String} {said : UnitLine} {file : File} {record : Record}
  {lexeme : String}

theorem readUnit_append : readUnit (lines ++ others) = readUnit lines ++ readUnit others :=
  List.filterMap_append

theorem readUnit_cons_some (known : readUnitLine? line.toList = some said) :
    readUnit (line :: others) = said :: readUnit others :=
  List.filterMap_cons_some known

theorem readUnit_cons_none (silent : readUnitLine? line.toList = none) :
    readUnit (line :: others) = readUnit others :=
  List.filterMap_cons_none silent

theorem readUnit_eq_nil (silent : ∀ line ∈ lines, readUnitLine? line.toList = none) :
    readUnit lines = [] :=
  List.filterMap_eq_nil_iff.mpr silent

theorem readUnit_map {α : Type} {list : List α} {text : α → String} {saying : α → UnitLine}
    (each : ∀ a ∈ list, readUnitLine? (text a).toList = some (saying a)) :
    readUnit (list.map text) = list.map saying := by
  rw [readUnit, List.filterMap_map, ← List.filterMap_eq_map]
  exact List.filterMap_congr each

/-- What is written with the record is written as names. -/
structure Record.Legible (record : Record) : Prop where
  name : PlainName record.name
  tag : PlainName record.tag
  fields : ∀ field ∈ record.fields, PlainName field.1

structure File.Legible (file : File) : Prop where
  union : PlainName file.union
  records : ∀ record ∈ file.records, record.Legible

/-- The path that a line imports. The names of another unit are grouped, unless there is one. -/
def Import.target : Import → String
  | path target => target
  | sibling scope module [name] => scope ++ "::" ++ module ++ "::" ++ name
  | sibling scope module names =>
    scope ++ "::" ++ module ++ "::" ++ ("\x7b" ++ commaSeparated names ++ "\x7d")

theorem Import.line_eq (line : Import) : line.line = "use " ++ line.target ++ ";" := by
  rw [← String.toList_inj]
  unfold Import.line target
  split <;> simp

theorem readUnit_header (file : File) : readUnit file.header = [] := by
  have first : readUnitLine? ("// `" ++ file.union ++
      "` nodes, generated by astgen. Do not edit by hand.").toList = none := by
    rw [String.append_assoc, String.toList_append]
    rfl
  rw [File.header, readUnit_cons_none first]
  rfl

theorem readUnit_importLines (file : File) : readUnit file.importLines =
    .use "std::fmt" :: file.imports.map fun line => .use line.target := by
  have each : ∀ line ∈ file.imports, readUnitLine? line.line.toList = some (.use line.target) := by
    intro line _
    rw [line.line_eq, readUnitLine?_use]
  have first : readUnit ["use std::fmt;", ""] = [.use "std::fmt"] := rfl
  have last : readUnit [""] = [] := rfl
  rw [File.importLines, readUnit_append, readUnit_append, readUnit_map each, first, last,
    List.append_nil, List.singleton_append]

theorem File.Legible.readUnit_unionLines (legible : file.Legible) :
    readUnit file.unionLines = .head .union file.union true ::
      file.records.map fun record => .head .variant record.name record.lifetime := by
  have each : ∀ record ∈ file.records, readUnitLine? (indented 1 (record.tag ++ "(&'a " ++
      record.name ++ lifetimeText record.lifetime ++ "),")).toList =
        some (.head .variant record.name record.lifetime) := fun record among =>
    readUnitLine?_variant (legible.records record among).tag (legible.records record among).name _
  have last : readUnit ["\x7d", ""] = [] := rfl
  rw [File.unionLines, readUnit_append, readUnit_append, readUnit_map each, last,
    readUnit_cons_none rfl, readUnit_cons_some (readUnitLine?_union legible.union),
    List.append_nil]
  rfl

theorem File.Legible.readUnit_dispatcher (legible : file.Legible) :
    readUnit file.dispatcher = [.head .display file.union true] := by
  have arms : readUnit (file.records.map fun record => indented 3 (file.union ++ "::" ++
      record.tag ++ "(node) => fmt::Display::fmt(node, f),")) = [] := by
    refine readUnit_eq_nil fun line member => ?_
    obtain ⟨record, -, rfl⟩ := List.mem_map.mp member
    exact readUnitLine?_indented 1 _
  have last : readUnit [indented 2 "\x7d", indented 1 "\x7d", "\x7d", ""] = [] := rfl
  have head : readUnitLine? ("impl fmt::Display for " ++ file.union ++ "<'_> \x7b").toList =
      some (.head .display file.union true) := by
    simpa [String.append_assoc] using readUnitLine?_display legible.union true
  rw [File.dispatcher, readUnit_append, readUnit_append, arms, last, List.append_nil,
    List.append_nil, readUnit_cons_some head]
  rfl

mutual

/-- The statements of a body stand deeper than what the reader looks for. -/
theorem readUnit_statement (depth : Nat) (statement : Statement) :
    readUnit (statement.lines lexeme (depth + 2)) = [] := by
  match statement with
  | .touch | .writeText text | .writeLexeme place | .display place =>
    rw [Statement.lines, readUnit_cons_none (readUnitLine?_indented _ _)]
    rfl
  | .forEach binds field body | .ifPresent binds field body =>
    have inside := readUnit_statementLines (depth + 1) body
    rw [Statement.lines, List.cons_append, readUnit_cons_none (readUnitLine?_indented _ _),
      readUnit_append, inside, List.nil_append, readUnit_cons_none (readUnitLine?_indented _ _)]
    rfl

theorem readUnit_statementLines (depth : Nat) (statements : List Statement) :
    readUnit (statementLines lexeme (depth + 2) statements) = [] := by
  match statements with
  | [] => rfl
  | statement :: rest =>
    rw [statementLines, readUnit_append, readUnit_statement depth statement,
      readUnit_statementLines depth rest, List.append_nil]

end

theorem readUnit_body (body : Body) : readUnit (body.lines lexeme) = [] := by
  cases body with
  | text | format =>
    rw [Body.lines, readUnit_cons_none (readUnitLine?_indented _ _)]
    rfl
  | block statements =>
    rw [Body.lines, readUnit_append, readUnit_statementLines 0,
      readUnit_cons_none (readUnitLine?_indented _ _)]
    rfl

namespace Record.Legible

variable (legible : record.Legible)
include legible

theorem readUnit_definition : readUnit record.definition =
    .head .record record.name record.lifetime ::
      record.fields.map fun field => .field field.1 field.2.text := by
  have each : ∀ field ∈ record.fields, readUnitLine? (indented 1 ("pub " ++ (field.1 ++ ": " ++
      field.2.text) ++ ",")).toList = some (.field field.1 field.2.text) :=
    fun field member => readUnitLine?_field (legible.fields field member) _
  have last : readUnit ["\x7d", ""] = [] := rfl
  have fields : readUnit (record.fieldTexts.map fun field => indented 1 ("pub " ++ field ++ ",")) =
      record.fields.map fun field => .field field.1 field.2.text := by
    rw [Record.fieldTexts, List.map_map]
    exact readUnit_map each
  rw [Record.definition, readUnit_append, readUnit_append, fields, last, readUnit_cons_none rfl,
    readUnit_cons_some (readUnitLine?_record legible.name _), List.append_nil]
  rfl

theorem readUnit_constructors (file : File) :
    readUnit (record.constructors file) = [.head .constructors record.name record.lifetime] := by
  rw [Record.constructors, readUnit_cons_some (readUnitLine?_constructors legible.name _),
    readUnit_eq_nil]
  intro line member
  simp only [List.mem_cons, List.not_mem_nil, or_false] at member
  rcases member with rfl | rfl | rfl | rfl | rfl | rfl | rfl | rfl | rfl | rfl | rfl | rfl | rfl
  · exact readUnitLine?_opens _ _ rfl
  · exact readUnitLine?_indented 0 _
  · rfl
  · rfl
  · exact readUnitLine?_opens _ _ rfl
  · exact readUnitLine?_indented 0 _
  · rfl
  · rfl
  · exact readUnitLine?_opens _ _ rfl
  · exact readUnitLine?_indented 0 _
  · rfl
  · rfl
  · rfl

theorem readUnit_renderer :
    readUnit (record.renderer lexeme) = [.head .display record.name record.lifetime] := by
  have last : readUnit [indented 1 "\x7d", "\x7d", ""] = [] := rfl
  rw [Record.renderer, readUnit_append, readUnit_append, readUnit_body, last, Record.rendererHead,
    readUnit_cons_some (readUnitLine?_display legible.name _)]
  rfl

end Record.Legible

theorem File.Legible.readUnit_lines (legible : file.Legible) : readUnit file.lines =
    .use "std::fmt" :: file.imports.map (fun line => .use line.target) ++
      .head .union file.union true ::
        file.records.map (fun record => .head .variant record.name record.lifetime) ++
      .head .display file.union true ::
        file.records.flatMap fun record =>
          .head .record record.name record.lifetime ::
            record.fields.map (fun field => .field field.1 field.2.text) ++
          [.head .constructors record.name record.lifetime,
            .head .display record.name record.lifetime] := by
  have records : readUnit (file.records.flatMap fun record => record.definition ++
      record.constructors file ++ record.renderer file.lexeme) =
        file.records.flatMap fun record => .head .record record.name record.lifetime ::
          record.fields.map (fun field => .field field.1 field.2.text) ++
          [.head .constructors record.name record.lifetime,
            .head .display record.name record.lifetime] := by
    rw [readUnit, List.filterMap_flatMap]
    refine List.flatMap_congr fun record among => ?_
    have isLegible := legible.records record among
    change readUnit _ = _
    rw [readUnit_append, readUnit_append, isLegible.readUnit_definition,
      isLegible.readUnit_constructors, isLegible.readUnit_renderer, List.append_assoc]
    rfl
  rw [File.lines, readUnit_append, readUnit_append, readUnit_append, readUnit_append,
    readUnit_header, readUnit_importLines, legible.readUnit_unionLines,
    legible.readUnit_dispatcher, records]
  simp

end Sections

end Source

end TreeSchema
