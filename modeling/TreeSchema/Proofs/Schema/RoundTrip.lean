import TreeSchema.Failure
import TreeSchema.Proofs.Schema.Loading

/-!
Printing and loading. A printed schema is loaded as it was unless it nests too deep, and what has
been loaded never does.
-/

namespace TreeSchema.Schema

open Json Json.Document

variable {text : String} {schema : Schema} {fault : Fault}

theorem ofJson_eq_ok_iff : ofJson text = .ok schema ↔ ofChars text.toList = .ok schema := by
  unfold ofJson load
  cases ofChars text.toList with
  | ok loaded => simp [Except.mapError]
  | error fault => exact ⟨nofun, nofun⟩

theorem ofJson_eq_error (refused : ofChars text.toList = .error fault) :
    ∃ reported : LoadFault, ofJson text = .error (.parse reported) ∧
      reported.cause = fault.cause := by
  unfold ofJson load
  rw [refused]
  exact ⟨_, rfl, rfl⟩

theorem within_ofChars_print (schema : Schema) :
    Within schema.toJson.depth maxDepth schema (ofChars schema.print.toList) := by
  obtain ⟨document, shows, made⟩ := exists_ofText_text schema.toJson
  have read := takes_schema maxDepth schema document shows
  rw [print, String.toList_ofList, ofChars, made]
  exact read.bind_ok rfl

theorem depth_le_of_ofChars {chars : List Char} (loaded : ofChars chars = .ok schema) :
    schema.toJson.depth ≤ maxDepth := by
  obtain ⟨read, accepted, same⟩ := bind_eq_ok_iff.mp loaded
  obtain ⟨-, -, same⟩ := bind_eq_ok_iff.mp same
  obtain rfl : read = schema := Except.ok.inj same
  exact depth_le_of_schema accepted

/-- A schema is loaded from what it is printed as, unless its text has 128 brackets open at a time.
A schema that was loaded is loaded again, however its text was written. -/
theorem ofJson_print :
    (∀ schema : Schema,
      (schema.toJson.depth < 128 → ofJson schema.print = .ok schema) ∧
      (128 ≤ schema.toJson.depth → ∃ fault : LoadFault,
        ofJson schema.print = .error (.parse fault) ∧ fault.cause = .tooDeep)) ∧
    ∀ text schema, ofJson text = .ok schema → ofJson schema.print = .ok schema := by
  refine ⟨fun schema => ⟨fun shallow => ?_, fun deep => ?_⟩, fun text schema loaded => ?_⟩
  · have answered := (within_ofChars_print schema).answered (Nat.le_of_lt_succ shallow)
    exact ofJson_eq_ok_iff.mpr answered
  · obtain ⟨fault, refused, cause⟩ := (within_ofChars_print schema).refused deep
    obtain ⟨reported, failed, same⟩ := ofJson_eq_error refused
    exact ⟨reported, failed, same.trans cause⟩
  · have shallow := depth_le_of_ofChars (ofJson_eq_ok_iff.mp loaded)
    have answered := (within_ofChars_print schema).answered shallow
    exact ofJson_eq_ok_iff.mpr answered

/-- Forty steps inside each other are loaded again and one more is too deep. A text with structs as
lists, a null module, a tag as an object and no collaborators is loaded, and what is printed then is
loaded as the same. -/
theorem ofJson_print_nested :
    let nested (n : Nat) : Schema := ⟨{}, [⟨"Expr", none, [⟨"CallExpr", "Call",
      [⟨"callee", .optionalNode "Expr"⟩],
      .custom [Nat.repeat (fun op => .ifPresent "callee" [op]) n .item]⟩]⟩]⟩
    let text : String := "\x7b\"categories\": [[\"Expr\", null, [[\"NumberExpr\", \"Number\", " ++
      "[[\"token\", \x7b\"token\": null\x7d]], " ++
      "\x7b\"template\": [\"\x7b\x7d\", [\"token\"]]\x7d]]]]\x7d"
    let loaded : Schema := ⟨{}, [⟨"Expr", none, [⟨"NumberExpr", "Number", [⟨"token", .token⟩],
      .template "\x7b\x7d" ["token"]⟩]⟩]⟩
    ofJson (nested 40).print = .ok (nested 40) ∧
    (∃ fault : LoadFault,
      ofJson (nested 41).print = .error (.parse fault) ∧ fault.cause = .tooDeep) ∧
    ofJson text = .ok loaded ∧ loaded.print ≠ text ∧ ofJson loaded.print = .ok loaded := by
  intro nested text loaded
  have shallow : (nested 40).toJson.depth < 128 := by decide +kernel
  have deep : 128 ≤ (nested 41).toJson.depth := by decide +kernel
  have accepted : ofJson text = .ok loaded := by decide +kernel
  have different : loaded.print ≠ text := by decide +kernel
  obtain ⟨printed, again⟩ := ofJson_print
  exact ⟨(printed (nested 40)).1 shallow, (printed (nested 41)).2 deep, accepted, different,
    again text loaded accepted⟩

end TreeSchema.Schema
