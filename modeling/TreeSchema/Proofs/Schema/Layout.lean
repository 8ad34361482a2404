import Mathlib
import TreeSchema.Proofs.Json.Flaws
import TreeSchema.Proofs.Schema.Arrangement
import TreeSchema.Proofs.Schema.RoundTrip

/-!
Loading and layout. A schema is loaded from what its text says, whatever the order of members, the
members that are not its own, the white space and the defaults that are written out.
-/

namespace TreeSchema.Json.Document

open TreeSchema.Json.Tree

variable {α ρ : Type} {budget : Nat}

/-! ### Fields -/

theorem fills_of_map {name : String} {required : Bool} {inside : Kind} {read : Inner budget α}
    {set : α → ρ → ρ} (follows : ∀ inner h, Follows inside (read inner h)) :
    Fills ⟨name, required, fun inner h follow document => (read inner h follow document).map set⟩
      (name, inside) :=
  ⟨rfl, fun inner h => (follows inner h).map set⟩

theorem fills_textSlot {name : String} {required : Bool} {set : String → ρ → ρ} :
    Fills (textSlot name required set : Slot budget ρ) (name, .plain) :=
  fills_of_map fun _ _ => .of_settled settled_readText

theorem fills_textsSlot {name : String} {set : List String → ρ → ρ} :
    Fills (textsSlot name set : Slot budget ρ) (name, .plain) :=
  fills_of_map fun _ _ => .of_settled (settled_readList fun _ _ => settled_readText)

theorem readText_of_spells {value : Tree} {text : String} (spells : value.Spells text) :
    value.document.readText = .ok text := by
  obtain ⟨parts, rfl, means⟩ := spells
  exact decode_bodyOf_eq_ok_iff.mpr means

/-- A text that a record holds anyway is read to no effect. -/
theorem exists_change_of_spells {value : Tree} {text : String} {set : String → ρ → ρ} {blank : ρ}
    (spells : value.Spells text) (same : set text blank = blank) :
    ∃ change, value.document.readText.map set = .ok change ∧ change blank = blank :=
  ⟨set text, map_eq_ok_iff.mpr ⟨text, readText_of_spells spells, rfl⟩, same⟩

theorem follows_collaborators :
    Follows (.record .collaborators) fun _ => collaborators budget := by
  refine follows_readRecord ?_ ?_ ?_
  · exact .cons fills_textSlot <| .cons fills_textSlot <| .cons fills_textSlot <|
      .cons fills_textSlot <| .cons fills_textSlot <| .cons fills_textSlot .nil
  · simp [textSlot]
  · intro name value same
    cases same with
    | @collaborator _ text _ known same =>
      refine ⟨by simp [textSlot], fun document filled read inner h enough => ?_⟩
      simp only [presets, List.mem_cons, Prod.mk.injEq, List.not_mem_nil, or_false] at known
      rcases known with ⟨rfl, rfl⟩ | ⟨rfl, rfl⟩ | ⟨rfl, rfl⟩ | ⟨rfl, rfl⟩ | ⟨rfl, rfl⟩ | ⟨rfl, rfl⟩
      all_goals exact ⟨_, rfl, exists_change_of_spells same rfl⟩

/-- The collaborators are what they are without the text if it has none or lists the first ones as
they are. -/
theorem collaborators_of_isDefault {name : String} {value : Tree}
    (same : RecordKind.IsDefault .schema name value) : name = "collaborators" ∧
      ∀ inner, value.document.collaborators (inner + 1) = .ok {} := by
  cases same with
  | noCollaborators => exact ⟨rfl, fun inner => rfl⟩
  | @collaborators items texts =>
    refine ⟨rfl, fun inner => ?_⟩
    rw [Tree.document, itemDocuments_eq_map]
    refine readElements_of_kept (by simp [textSlot]) ?_
    intro i item among
    rw [List.getElem?_map, Option.map_eq_some_iff] at among
    obtain ⟨value, among, rfl⟩ := among
    obtain ⟨name, text, known, same⟩ := texts i value among
    have few : i < 6 := (List.getElem?_eq_some_iff.mp known).1
    interval_cases i
    all_goals
      cases known
      exact ⟨_, rfl, exists_change_of_spells same rfl⟩

theorem settled_primitive : Settled (primitive budget) := by
  refine settled_readChoice ?_
  simp only [List.forall_mem_cons]
  refine ⟨?_, ?_, ?_, ?_, List.forall_mem_nil _⟩
  all_goals exact fun inner h => settled_read_empty

theorem settled_fieldType : Settled (fieldType budget) := by
  refine settled_readChoice ?_
  simp only [List.forall_mem_cons]
  refine ⟨?_, ?_, ?_, ?_, ?_, ?_, List.forall_mem_nil _⟩
  · exact fun inner h => settled_read_empty
  · exact fun inner h => settled_read_empty
  · exact fun inner h => settled_primitive.map _
  · exact fun inner h => settled_readText.map _
  · exact fun inner h => settled_readText.map _
  · exact fun inner h => settled_readText.map _

theorem follows_field : Follows (.record .field) fun _ => field budget := by
  refine follows_readRecord ?_ ?_ nofun
  · exact .cons fills_textSlot <| .cons (fills_of_map fun _ _ => .of_settled settled_fieldType) .nil
  · exact List.pairwise_pair.mpr (apart_of_map fun _ _ _ => rfl)

/-! ### Rendering programs -/

theorem follows_ops (each : ∀ inner < budget, Follows (.choice .op) (op inner)) :
    Follows (.list (.choice .op)) fun _ => ops budget := by
  have unfolded : ops budget = readList budget fun inner _ follow item => item.op inner follow := by
    funext document
    rw [Document.ops]
  rw [unfolded]
  exact follows_readList each

/-- The fields of a variant are those of a record, from which the answer is made. -/
theorem follows_variant {kind : RecordKind} {expected : String} {blank : ρ} {f : ρ → α}
    {slots : List (Slot budget ρ)} (fills : List.Forall₂ Fills slots kind.fields)
    (apart : slots.Pairwise Apart) (keeps : Keeps kind expected blank slots) :
    Follows (.record kind) fun _ document =>
      document.readRecord budget expected blank slots >>= fun filled => return f filled :=
  (follows_readRecord fills apart keeps).map f

theorem follows_op (budget : Nat) : Follows (.choice .op) (op budget) := by
  -- The steps of a body are read with less than the budget of the step that has it.
  induction budget using Nat.strongRecOn with
  | _ budget ih =>
    have body {inner : Nat} (h : inner < budget) (deeper : Nat) (_ : deeper < inner) :
        Follows (.list (.choice .op)) fun _ => ops deeper :=
      follows_ops fun least _ => ih least (by omega)
    have unfolded : op budget = fun follow document => readChoice budget _ follow document :=
      funext fun follow => funext fun document => Document.op.eq_1 budget follow document
    rw [unfolded]
    refine follows_readChoice (.cons ⟨rfl, ?_⟩ <| .cons ⟨rfl, ?_⟩ <| .cons ⟨rfl, ?_⟩ <|
      .cons ⟨rfl, ?_⟩ <| .cons ⟨rfl, ?_⟩ .nil)
    · exact fun inner h => .of_settled (settled_readText.map _)
    · exact fun inner h => .of_settled (settled_readText.map _)
    · exact fun inner h => .of_settled settled_read_empty
    · intro inner h
      refine follows_variant (.cons fills_textSlot <| .cons (fills_of_map (body h)) <|
        .cons fills_textSlot .nil) ?_ ?_
      · simp [textSlot]
      · intro name value same
        cases same with
        | separator empty =>
          refine ⟨by simp [textSlot], fun document filled read inner h enough => ?_⟩
          exact ⟨_, rfl, exists_change_of_spells empty rfl⟩
    · intro inner h
      refine follows_variant (.cons fills_textSlot <| .cons (fills_of_map (body h)) .nil) ?_ nofun
      exact List.pairwise_pair.mpr (apart_of_map fun _ _ _ => rfl)

theorem follows_render : Follows (.choice .render) (render budget) := by
  refine follows_readChoice (.cons ⟨rfl, fun inner h => ?_⟩ <| .cons ⟨rfl, fun inner h => ?_⟩ .nil)
  · exact follows_variant (.cons fills_textSlot <| .cons fills_textsSlot .nil)
      (List.pairwise_pair.mpr (apart_of_map fun _ _ _ => rfl)) nofun
  · exact (follows_ops fun least _ => follows_op least).map Render.custom

/-! ### Declarations -/

theorem follows_node : Follows (.record .node) fun _ => node budget := by
  refine follows_readRecord ?_ ?_ ?_
  · exact .cons fills_textSlot <| .cons fills_textSlot <|
      .cons (fills_of_map fun _ _ => follows_readList fun _ _ => follows_field) <|
      .cons (fills_of_map fun _ _ => follows_render) .nil
  · simp [textSlot]
  · intro name value same
    cases same with
    | fields =>
      refine ⟨by simp [textSlot], fun document filled read inner h enough => ?_⟩
      -- The render, which is needed, has at least two brackets open.
      have deep := depth_le_of_node read
      have render := depth_of_render filled.render
      simp only [Node.toJson, Value.depth, Value.membersDepth, Value.memberDepth] at deep
      obtain ⟨least, rfl⟩ := Nat.exists_eq_add_one_of_ne_zero (show inner ≠ 0 by omega)
      exact ⟨_, rfl, _, rfl, rfl⟩

theorem follows_category : Follows (.record .category) fun _ => category budget := by
  refine follows_readRecord ?_ ?_ ?_
  · exact .cons fills_textSlot <| .cons (fills_of_map fun _ _ => .of_settled settled_readText?) <|
      .cons (fills_of_map fun _ _ => follows_readList fun _ _ => follows_node) .nil
  · simp [textSlot]
  · intro name value same
    cases same with
    | module =>
      refine ⟨by simp [textSlot], fun document filled read inner h enough => ?_⟩
      exact ⟨_, rfl, _, rfl, rfl⟩

theorem follows_schema : Follows (.record .schema) fun _ => schema budget := by
  refine follows_readRecord ?_ ?_ ?_
  · exact .cons (fills_of_map fun _ _ => follows_collaborators) <|
      .cons (fills_of_map fun _ _ => follows_readList fun _ _ => follows_category) .nil
  · exact List.pairwise_pair.mpr (apart_of_map fun _ _ _ => rfl)
  · intro name value same
    obtain ⟨rfl, answered⟩ := collaborators_of_isDefault same
    refine ⟨by simp, fun document filled read inner h enough => ?_⟩
    have deep := depth_le_of_schema read
    simp only [Schema.toJson, Value.depth, Value.membersDepth, Value.memberDepth,
      Collaborators.toJson] at deep
    obtain ⟨least, rfl⟩ := Nat.exists_eq_add_one_of_ne_zero (show inner ≠ 0 by omega)
    exact ⟨_, rfl, _, map_eq_ok_iff.mpr ⟨_, answered least, rfl⟩, rfl⟩

end TreeSchema.Json.Document

namespace TreeSchema.Schema

open Json Json.Document

variable {text : String} {schema : Schema} {tree : Tree}

/-- A text is loaded if it is laid out from a tree that is read as the schema. -/
theorem ofJson_eq_ok_iff_laid (laid : Laid tree.marks text.toList) :
    ofJson text = .ok schema ↔ tree.document.schema maxDepth = .ok schema := by
  obtain ⟨document, made, sound, rfl⟩ := exists_ofText_of_laid laid
  have follows : Follows (.record .schema) fun _ => Document.schema maxDepth := follows_schema
  have read := follows.settled 0 document schema
  rw [ofJson_eq_ok_iff, ofChars, made]
  constructor
  · intro loaded
    obtain ⟨answer, answered, same⟩ := bind_eq_ok_iff.mp loaded
    obtain rfl : answer = schema := Except.ok.inj same
    exact (read.mp answered).2
  · intro answered
    exact bind_eq_ok_iff.mpr ⟨schema, read.mpr ⟨sound, answered⟩, rfl⟩

theorem laid_of_tree (surplus : (ofText text.toList).2 = none)
    (sound : (ofText text.toList).1.skipFault? = none) (same : (ofText text.toList).1.tree = tree) :
    Laid tree.marks text.toList :=
  same ▸ laid_of_ofText (Prod.ext rfl surplus) sound

theorem exists_laid_of_ofJson (loaded : ofJson text = .ok schema) :
    ∃ tree : Tree, Laid tree.marks text.toList := by
  rw [ofJson_eq_ok_iff, ofChars] at loaded
  rcases made : ofText text.toList with ⟨document, surplus?⟩
  rw [made] at loaded
  obtain ⟨answer, answered, loaded⟩ := bind_eq_ok_iff.mp loaded
  obtain ⟨⟨⟩, nothing, -⟩ := bind_eq_ok_iff.mp loaded
  have sound := ((follows_schema.settled 0 document answer).mp answered).1
  rw [refuse_eq_ok_iff, Option.map_eq_none_iff] at nothing
  subst nothing
  exact ⟨document.tree, laid_of_ofText made sound⟩

/-- Loading goes by what a text says. A text that is loaded is laid out from a tree, and any text
that is laid out from that tree or a rearranged one is loaded as the same schema. -/
theorem ofJson_relaid :
    ∀ text schema, ofJson text = .ok schema →
      (∃ tree : Tree, Laid tree.marks text.toList) ∧
      ∀ (tree other : Tree) (again : String), Laid tree.marks text.toList →
        Relaid (.record .schema) tree other → Laid other.marks again.toList →
        ofJson again = .ok schema := by
  intro text schema loaded
  refine ⟨exists_laid_of_ofJson loaded, ?_⟩
  intro tree other again laid relaid laidAgain
  have read := (ofJson_eq_ok_iff_laid laid).mp loaded
  exact (ofJson_eq_ok_iff_laid laidAgain).mpr ((follows_schema.relaid relaid schema).mp read)

set_option maxRecDepth 2000 in
/-- Among the members are a default with a default in it and an unknown one that has a number out of
range and half of a surrogate pair. -/
theorem ofJson_relaid_of_scattered :
    let text : String := "\x7b\"categories\": []\x7d"
    let again : String := "\n\x7b \"categories\":[],\"collaborators\" :" ++
      "\x7b\"lexeme\":\t\"lexeme\"\x7d, \"x\": [1e999, \"\\ud800\"]\x7d \n"
    ofJson text = .ok ⟨{}, []⟩ ∧ ∃ tree other : Tree, Laid tree.marks text.toList ∧
      Relaid (.record .schema) tree other ∧ Laid other.marks again.toList ∧
      ofJson again = .ok ⟨{}, []⟩ := by
  intro text again
  let categories := (spelled "categories", Tree.list [])
  let collaborators (members : List (List Part × Tree)) :=
    (spelled "collaborators", Tree.object members)
  let lexeme := (spelled "lexeme", Tree.string (spelled "lexeme"))
  let unknown := (spelled "x", Tree.list
    [.numeral ⟨false, ['1'], none, some (false, ['9', '9', '9'])⟩, .string [.unit 0xd800]])
  have own (name : String) : Means (spelled name) name := means_spelled_iff.mpr rfl
  have added : Rearranges (.record .schema) (.object [categories])
      (.object [collaborators [], categories]) :=
    .default (own _) (by simp [categories, means_spelled_iff]) .noCollaborators
  have inside : Rearranges (.record .schema) (.object [collaborators [], categories])
      (.object [collaborators [lexeme], categories]) :=
    .member (own _) (.head _) <|
      .default (own _) nofun (.collaborator (by decide) ⟨_, rfl, own "lexeme"⟩)
  have beside : Rearranges (.record .schema) (.object [collaborators [lexeme], categories])
      (.object [unknown, collaborators [lexeme], categories]) :=
    .unknown (own "x") (by decide)
  have turned : Rearranges (.record .schema)
      (.object [unknown, collaborators [lexeme], categories])
      (.object [categories, collaborators [lexeme], unknown]) :=
    .order (List.reverse_perm [categories, collaborators [lexeme], unknown])
  have relaid : Relaid (.record .schema) (.object [categories])
      (.object [categories, collaborators [lexeme], unknown]) :=
    .head added <| .head inside <| .head beside <| .head turned <| .refl _
  have loaded : ofJson text = .ok ⟨{}, []⟩ := by decide +kernel
  have laid : Laid (Tree.object [categories]).marks text.toList :=
    laid_of_tree (by decide +kernel) (by decide +kernel) (by cbv)
  have laidAgain : Laid (Tree.object
      [categories, collaborators [lexeme], unknown]).marks again.toList :=
    laid_of_tree (by decide +kernel) (by decide +kernel) (by cbv)
  exact ⟨loaded, _, _, laid, relaid, laidAgain,
    (ofJson_relaid text ⟨{}, []⟩ loaded).2 _ _ again laid relaid laidAgain⟩

end TreeSchema.Schema
