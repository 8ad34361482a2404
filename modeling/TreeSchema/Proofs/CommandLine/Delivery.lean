import TreeSchema.CommandLine
import TreeSchema.Proofs.CommandLine.Arguments
import TreeSchema.Proofs.Output.Bystanders
import TreeSchema.Proofs.Schema.RoundTrip

/-!
What a run of the command line leaves behind. A run that fails has put back what was in the places
of the units, and has printed nothing unless standard output itself refused to take more. What a run
prints is what a run into a directory writes.
-/

namespace TreeSchema

open Store

theorem Store.readText_of_read {store : Store} {path text : String}
    (found : store.read path = .ok text.toUTF8) : store.readText path = .ok text := by
  have decoded : String.fromUTF8? text.toUTF8 = some text := by
    rw [String.fromUTF8?, String.toUTF8_eq_toByteArray, dif_pos text.isValidUTF8]
    rfl
  rw [Store.readText, found]
  simp only [decoded]

theorem Store.loadSchema_of_print {store : Store} {path : String} {schema : Schema}
    (found : store.read path = .ok schema.print.toUTF8) (shallow : schema.toJson.depth < 128) :
    store.loadSchema path = .ok schema := by
  have loaded := (Schema.within_ofChars_print schema).answered (Nat.le_of_lt_succ shallow)
  simp only [Store.loadSchema, Store.readText_of_read found, Schema.load, loaded, Except.mapError]

namespace CommandLine

/-! ### Standard output -/

namespace Console

theorem take_eq_or (console : Console) (bytes : ByteArray) :
    (∀ room fault, console = .limited room fault → bytes.size ≤ room) ∧
        console.take bytes = (bytes, none) ∨
      ∃ room fault, console = .limited room fault ∧ room < bytes.size ∧
        console.take bytes = (bytes.extract 0 room, some fault) := by
  cases console with
  | endless => exact .inl ⟨nofun, rfl⟩
  | limited room fault =>
    by_cases fits : bytes.size ≤ room
    · exact .inl ⟨by rintro _ _ ⟨⟩; exact fits, if_pos fits⟩
    · exact .inr ⟨room, fault, rfl, by omega, if_neg fits⟩

/-- Where the first bytes are cut, it does not matter what comes after them. -/
theorem take_append (console : Console) (bytes more : ByteArray) :
    (console.take bytes = (bytes, none)) ∨
      (∃ fault, (console.take bytes).2 = some fault) ∧
        console.take (bytes ++ more) = console.take bytes := by
  rcases console.take_eq_or bytes with ⟨-, taken⟩ | ⟨room, fault, rfl, beyond, cut⟩
  · exact .inl taken
  · refine .inr ⟨⟨fault, by rw [cut]⟩, ?_⟩
    have longer : ¬(bytes ++ more).size ≤ room := by
      rw [ByteArray.size_append]
      omega
    rw [cut, take, if_neg longer]
    simp [ByteArray.extract_append, Nat.le_of_lt beyond]

/-- Printing texts one after the other is printing them all at once. -/
theorem print_eq_take (console : Console) (texts : List String) {printed : ByteArray}
    (fits : console.take printed = (printed, none)) :
    console.print printed texts = console.take (printed ++ (String.join texts).toUTF8) := by
  induction texts generalizing printed with
  | nil =>
    have nothing : (String.join []).toUTF8 = .empty := rfl
    rw [print, nothing, ByteArray.append_empty, fits]
  | cons text rest ih =>
    have all : printed ++ (String.join (text :: rest)).toUTF8 =
        printed ++ text.toUTF8 ++ (String.join rest).toUTF8 := by
      rw [String.join_cons, String.toUTF8_eq_toByteArray, String.toByteArray_append,
        ByteArray.append_assoc]
      rfl
    rw [print, all]
    rcases console.take_append (printed ++ text.toUTF8) (String.join rest).toUTF8 with
      taken | ⟨⟨fault, refused⟩, same⟩
    · rw [taken]
      exact ih taken
    · rw [same]
      split
      next step =>
        rw [step] at refused
        cases refused
      next step => exact step.symm

end Console

variable {format : Formatter → FormatStep} {args : List String} {store : Store} {job : Job}
  {schema : Schema} {units : List SourceUnit} {work : Work} {paths : List String}
  {console : Console}

/-- The text of all units, in their order. -/
def bytesOf (units : List SourceUnit) : ByteArray :=
  (String.join (units.map (·.source))).toUTF8

/-- Where the unit of a category is written to. -/
def Job.target (job : Job) (category : Category) : String :=
  joinPath job.outdir (category.moduleName ++ ".rs")

/-- If a job asks for a formatter, it changes no file but the one it is given. -/
def Job.Confined (job : Job) (format : Formatter → FormatStep) : Prop :=
  ∀ step ∈ job.formatterOf.map format, step.Confined

/-- What is in the place of a unit is what was there, unless it is a directory that was made on the
way to the one that is written to. -/
def Job.Keeps (job : Job) (schema : Schema) (before after : Store) : Prop :=
  ∀ category ∈ schema.categories, ∀ path,
    before.resolve (job.target category) = .ok path ∨
      after.resolve (job.target category) = .ok path →
    after.get? path = before.get? path ∨ before.MadeOnWay after job.outdir path

/-- The arguments ask for a job, and its schema is loaded and generates the units. -/
structure Generates (args : List String) (store : Store) (job : Job) (schema : Schema)
    (units : List SourceUnit) : Prop where
  asked : Request.ofArguments args = .ok (.job job)
  loaded : store.loadSchema job.schema = .ok schema
  made : schema.units = .ok units

/-! ### Steps -/

theorem Generates.run_eq (generates : Generates args store job schema units) :
    runOn format args store console = job.deliver format units store console := by
  simp only [runOn, generates.asked, Job.run, generates.loaded, Except.bind, generates.made]

/-- Without units nothing is printed and nothing is written, but for the usage. -/
theorem run_cases (format : Formatter → FormatStep) (args : List String) (store : Store)
    (console : Console) :
    ((runOn format args store console).exit = 1 →
          (runOn format args store console).printed = .empty) ∧
        (runOn format args store console).store = store ∨
      ∃ job schema units, Generates args store job schema units := by
  unfold runOn
  cases asked : Request.ofArguments args with
  | error fault => exact .inl ⟨fun _ => rfl, rfl⟩
  | ok request =>
    cases request with
    | help =>
      dsimp only
      unfold Report.ofHelp
      split
      next => exact .inl ⟨nofun, rfl⟩
      next => exact .inl ⟨nofun, rfl⟩
    | job job =>
      simp only [Job.run]
      cases loaded : store.loadSchema job.schema with
      | error failure => exact .inl ⟨fun _ => rfl, rfl⟩
      | ok schema =>
        cases made : schema.units with
        | error failure =>
          simp only [Except.bind, made]
          exact .inl ⟨fun _ => rfl, rfl⟩
        | ok units => exact .inr ⟨job, schema, units, asked, loaded, made⟩

/-- How a job ends, by where its units go. -/
inductive Job.Delivers (job : Job) (format : Formatter → FormatStep) (units : List SourceUnit)
    (store : Store) (console : Console) : Report → Prop
  | printed (dash : job.outdir = "-")
    (fits : ∀ room fault, console = .limited room fault → (bytesOf units).size ≤ room) :
    Delivers job format units store console ⟨0, bytesOf units, [], store⟩
  | refused (dash : job.outdir = "-") {room : Nat} {fault : IoFault}
    (limited : console = .limited room fault) (beyond : room < (bytesOf units).size) :
    Delivers job format units store console
      { Report.ofFailure (.sink "<stdout>" fault) [] store with
        printed := (bytesOf units).extract 0 room }
  | written (other : job.outdir ≠ "-") {work : Work} {paths : List String}
    (done : (Work.start store).writeUnits job.outdir units (job.formatterOf.map format) =
      (work, .ok paths)) :
    Delivers job format units store console ⟨0, .empty, shown work.log, work.store⟩
  | failed (other : job.outdir ≠ "-") {work : Work} {failure : Failure}
    (stopped : (Work.start store).writeUnits job.outdir units (job.formatterOf.map format) =
      (work, .error failure)) :
    Delivers job format units store console (.ofFailure failure work.log work.store)

theorem Job.delivers (job : Job) (format : Formatter → FormatStep) (units : List SourceUnit)
    (store : Store) (console : Console) :
    job.Delivers format units store console (job.deliver format units store console) := by
  unfold Job.deliver
  split
  next dash =>
    have empty : console.take .empty = (.empty, none) := by
      rcases console.take_eq_or .empty with ⟨-, taken⟩ | ⟨room, -, -, beyond, -⟩
      · exact taken
      · exact absurd beyond (Nat.not_lt_zero room)
    have printed : console.print .empty (units.map (·.source)) = console.take (bytesOf units) := by
      rw [console.print_eq_take _ empty, ByteArray.empty_append]
      rfl
    rw [printed]
    rcases console.take_eq_or (bytesOf units) with ⟨fits, taken⟩ | ⟨room, fault, known, beyond, cut⟩
    · rw [taken]
      exact .printed dash fits
    · rw [cut]
      exact .refused dash known beyond
  next other =>
    split
    next done => exact .written other done
    next stopped => exact .failed other stopped

theorem Generates.delivers (generates : Generates args store job schema units)
    (format : Formatter → FormatStep) (console : Console) :
    job.Delivers format units store console (runOn format args store console) := by
  rw [generates.run_eq]
  exact job.delivers format units store console

/-! ### Outcomes -/

theorem Job.keeps_refl (job : Job) (schema : Schema) (store : Store) :
    job.Keeps schema store store :=
  fun _ _ _ _ => .inl rfl

/-- The places of the categories are those of the units. -/
theorem exists_unit_target (made : schema.units = .ok units) (job : Job) {category : Category}
    (member : category ∈ schema.categories) :
    ∃ unit ∈ units, (Staged.ofUnit job.outdir unit).target = job.target category := by
  have among : category.moduleName ∈ units.map (·.module) :=
    Schema.map_module_of_units made ▸ List.mem_map_of_mem member
  obtain ⟨unit, inUnits, named⟩ := List.mem_map.mp among
  exact ⟨unit, inUnits, by rw [Job.target, ← named]; rfl⟩

theorem Job.keeps_of_writeUnits_error {failure : Failure} (made : schema.units = .ok units)
    (confined : job.Confined format) (inPlace : store.DeviceInPlace)
    (failed : (Work.start store).writeUnits job.outdir units (job.formatterOf.map format) =
      (work, .error failure)) : job.Keeps schema store work.store := by
  have separate := Schema.separate_of_units made
  obtain ⟨middle, grown, cleared⟩ :=
    Work.cleared_of_writeUnits_error separate confined inPlace failed
  intro category member path resolved
  obtain ⟨unit, inUnits, target⟩ := exists_unit_target made job member
  rw [← target] at resolved
  refine (cleared.unharmed separate grown).target unit inUnits path ?_
  rcases resolved with before | after
  · exact cleared.resolve grown before
  · exact after

/-- Without a formatter every unit's file holds its source. -/
theorem lookup?_of_writeUnits_ok (made : schema.units = .ok units) (inPlace : store.DeviceInPlace)
    (done : (Work.start store).writeUnits job.outdir units none = (work, .ok paths)) :
    schema.categories.map (fun category => work.store.lookup? (job.target category)) =
      units.map fun unit => some (.file unit.source.toUTF8) := by
  obtain ⟨-, middle, written, grown, installed⟩ :=
    Work.installedFrom_of_writeUnits_ok (Schema.separate_of_units made) (by simp) inPlace done
  let read (module : String) := work.store.lookup? (joinPath job.outdir (module ++ ".rs"))
  calc schema.categories.map (fun category => work.store.lookup? (job.target category))
      = (schema.categories.map (·.moduleName)).map read := by rw [List.map_map]; rfl
    _ = units.map (fun unit => read unit.module) := by
        rw [← Schema.map_module_of_units made, List.map_map]; rfl
    _ = units.map fun unit => some (.file unit.source.toUTF8) := by
        refine List.map_congr_left fun unit member => ?_
        obtain ⟨_, _, _, ⟨_, rfl⟩, found⟩ := (installed.isInstalled grown).target unit member
        exact found

/-- A run whose exit code is one has printed nothing, unless standard output refused units. It has
changed nothing either, unless writing units failed. -/
theorem run_failed_cases (failed : (runOn format args store console).exit = 1) :
    ((runOn format args store console).printed = .empty ∧
        (runOn format args store console).store = store) ∨
      ∃ job schema units, Generates args store job schema units ∧
        ((job.outdir = "-" ∧ (runOn format args store console).store = store ∧
            ∃ room fault, console = .limited room fault ∧ room < (bytesOf units).size ∧
              (runOn format args store console).printed = (bytesOf units).extract 0 room) ∨
          ∃ work failure, (runOn format args store console).printed = .empty ∧
            (Work.start store).writeUnits job.outdir units (job.formatterOf.map format) =
              (work, .error failure) ∧
            (runOn format args store console).store = work.store) := by
  rcases run_cases format args store console with ⟨silent, same⟩ | ⟨job, schema, units, generates⟩
  · exact .inl ⟨silent failed, same⟩
  · refine .inr ⟨job, schema, units, generates, ?_⟩
    have delivers := generates.delivers format console
    generalize runOn format args store console = report at delivers failed
    cases delivers with
    | printed | written => cases failed
    | refused dash limited beyond => exact .inl ⟨dash, rfl, _, _, limited, beyond, rfl⟩
    | failed other stopped => exact .inr ⟨_, _, rfl, stopped, rfl⟩

theorem Generates.run_of_writeUnits_ok (generates : Generates args store job schema units)
    (other : job.outdir ≠ "-") (noFormat : job.noFormat = true)
    (done : (Work.start store).writeUnits job.outdir units none = (work, .ok paths)) :
    runOn format args store console = ⟨0, .empty, shown work.log, work.store⟩ := by
  have formatter : job.formatterOf = none := if_pos noFormat
  rw [generates.run_eq, Job.deliver, if_neg other, formatter, Option.map_none, done]

/-- Units that are printed change nothing. All of them are printed if there is room, and else the
run fails once there is none. -/
theorem Generates.run_of_dash (generates : Generates args store job schema units)
    (dash : job.outdir = "-") :
    ((∀ room fault, console = .limited room fault → (bytesOf units).size ≤ room) →
        runOn format args store console = ⟨0, bytesOf units, [], store⟩) ∧
      ∀ room fault, console = .limited room fault → room < (bytesOf units).size →
        runOn format args store console = ⟨1, (bytesOf units).extract 0 room,
          ["error: failed to write <stdout>", "  caused by: " ++ fault.message], store⟩ := by
  have delivers := generates.delivers format console
  generalize runOn format args store console = report at delivers
  cases delivers with
  | printed _ fits =>
    refine ⟨fun _ => rfl, fun room fault limited beyond => ?_⟩
    exact absurd (fits room fault limited) (Nat.not_le.mpr beyond)
  | refused _ limited beyond =>
    refine ⟨fun fits => absurd (fits _ _ limited) (Nat.not_le.mpr beyond), ?_⟩
    rintro room fault same -
    obtain ⟨rfl, rfl⟩ := Console.limited.inj (limited.symm.trans same)
    rfl
  | written other | failed other => exact absurd dash other

/-- Units are not printed unless two dashes are among the arguments. -/
theorem Generates.printed_eq_empty (generates : Generates args store job schema units)
    (noDashes : "--" ∉ args) : (runOn format args store console).printed = .empty := by
  have other : job.outdir ≠ "-" := by
    intro dash
    have plain := isOption_outdir_of_notMem generates.asked noDashes
    rw [dash] at plain
    exact absurd plain (by decide)
  have delivers := generates.delivers format console
  generalize runOn format args store console = report at delivers
  cases delivers with
  | printed dash | refused dash => exact absurd dash other
  | written | failed => rfl

/-- A run whose exit code is one leaves what was in the places of the units there, but for a
directory made on the way, and has printed nothing, unless standard output refused a part of the
units: then it has printed what comes before. Of a schema that generates, a run prints the sources
of the units in the order of the categories as far as there is room and changes nothing, or it
writes the same text to their files. -/
theorem run_allOrNothing (format : Formatter → FormatStep) (console : Console)
    (inPlace : store.DeviceInPlace) :
    (∀ args, (runOn format args store console).exit = 1 →
      ((runOn format args store console).printed = .empty ∨
        ∃ job schema units room fault, Generates args store job schema units ∧ job.outdir = "-" ∧
          console = .limited room fault ∧ room < (bytesOf units).size ∧
          (runOn format args store console).printed = (bytesOf units).extract 0 room) ∧
      ∀ job schema, Request.ofArguments args = .ok (.job job) → job.Confined format →
        store.loadSchema job.schema = .ok schema →
        job.Keeps schema store (runOn format args store console).store) ∧
    ∀ args job schema units, Generates args store job schema units →
      units.map (·.module) = schema.categories.map (·.moduleName) ∧
      (job.outdir = "-" →
        ((∀ room fault, console = .limited room fault → (bytesOf units).size ≤ room) →
          runOn format args store console = ⟨0, bytesOf units, [], store⟩) ∧
        ∀ room fault, console = .limited room fault → room < (bytesOf units).size →
          runOn format args store console = ⟨1, (bytesOf units).extract 0 room,
            ["error: failed to write <stdout>", "  caused by: " ++ fault.message], store⟩) ∧
      (job.outdir ≠ "-" → job.noFormat = true → ∀ work paths,
        (Work.start store).writeUnits job.outdir units none = (work, .ok paths) →
        (runOn format args store console).exit = 0 ∧ ∃ texts : List String,
          schema.categories.map (fun category =>
              (runOn format args store console).store.lookup? (job.target category)) =
            texts.map (fun text => some (.file text.toUTF8)) ∧
          String.join texts = String.join (units.map (·.source))) := by
  constructor
  · intro args failed
    rcases run_failed_cases failed with ⟨silent, same⟩ | ⟨job, schema, units, generates,
      ⟨dash, same, room, fault, limited, beyond, cut⟩ | ⟨work, failure, silent, refused, left⟩⟩
    · refine ⟨.inl silent, ?_⟩
      intro job schema _ _ _
      rw [same]
      exact job.keeps_refl schema store
    · refine ⟨.inr ⟨job, schema, units, room, fault, generates, dash, limited, beyond, cut⟩, ?_⟩
      intro job schema _ _ _
      rw [same]
      exact job.keeps_refl schema store
    · refine ⟨.inl silent, ?_⟩
      intro other schemaToo asked confined loaded
      obtain rfl : job = other := by simpa using generates.asked.symm.trans asked
      obtain rfl : schema = schemaToo := Except.ok.inj (generates.loaded.symm.trans loaded)
      rw [left]
      exact Job.keeps_of_writeUnits_error generates.made confined inPlace refused
  · intro args job schema units generates
    refine ⟨Schema.map_module_of_units generates.made, generates.run_of_dash, ?_⟩
    intro other noFormat work paths done
    rw [generates.run_of_writeUnits_ok other noFormat done]
    refine ⟨rfl, units.map (·.source), ?_, rfl⟩
    rw [List.map_map]
    exact lookup?_of_writeUnits_ok generates.made inPlace done

/-- One schema is written to where a directory is in the place of its unit, printed, printed to
where three bytes have room, and written to where nothing is. -/
theorem run_leafSchema :
    let store : Store :=
      (Store.empty.put ["tmp", "work", "schema.json"] (.file leafSchema.print.toUTF8)).put
        ["tmp", "work", "expr.rs"] .directory
    let format : Formatter → FormatStep := fun _ => .fill "// formatted".toUTF8
    let full : Console := .limited 3 .noSpace
    ((run format ["schema.json", "."] store).exit = 1 ∧
      (run format ["schema.json", "."] store).printed = .empty ∧
      (run format ["schema.json", "."] store).store.get? ["tmp", "work", "expr.rs"] =
        some .directory) ∧
    run format ["--", "schema.json", "-"] store =
      ⟨0, leafFile.unit.source.toUTF8, [], store⟩ ∧
    runOn format ["--", "schema.json", "-"] store full =
      ⟨1, leafFile.unit.source.toUTF8.extract 0 3, ["error: failed to write <stdout>",
        "  caused by: No space left on device (os error 28)"], store⟩ ∧
    (run format ["--no-format", "schema.json", "gen"] store).exit = 0 ∧
    (run format ["--no-format", "schema.json", "gen"] store).store.lookup? "gen/expr.rs" =
      some (.file leafFile.unit.source.toUTF8) := by
  intro store format full
  unfold run
  have inPlace : store.DeviceInPlace := by
    repeat' refine Store.DeviceInPlace.put ?_ (by simp) (by simp)
    exact Store.deviceInPlace_empty
  have loaded : store.loadSchema "schema.json" = .ok leafSchema :=
    Store.loadSchema_of_print rfl (by decide +kernel)
  have prints : Generates ["--", "schema.json", "-"] store ⟨"schema.json", "-", false, none⟩
      leafSchema [leafFile.unit] := ⟨by decide +kernel, loaded, units_leafSchema⟩
  obtain ⟨refuses, delivers⟩ := run_allOrNothing format .endless inPlace
  refine ⟨?_, ?_, ?_, ?_⟩
  · let job : Job := ⟨"schema.json", ".", false, none⟩
    have asked : Request.ofArguments ["schema.json", "."] = .ok (.job job) := by decide +kernel
    have generates : Generates ["schema.json", "."] store job leafSchema [leafFile.unit] :=
      ⟨asked, loaded, units_leafSchema⟩
    have failed : (runOn format ["schema.json", "."] store .endless).exit = 1 := by
      rw [generates.run_eq]
      decide +kernel
    have confined : job.Confined format := by
      rintro step ⟨⟩
      exact FormatStep.fill_confined _
    have resolved : ∀ category ∈ leafSchema.categories,
        store.resolve (job.target category) = .ok ["tmp", "work", "expr.rs"] := by
      decide +kernel
    obtain ⟨silent | ⟨_, _, _, _, _, _, _, limited, -⟩, keeps⟩ := refuses _ failed
    · refine ⟨failed, silent, ?_⟩
      rcases keeps job leafSchema asked confined loaded _ List.mem_cons_self _
        (.inl (resolved _ List.mem_cons_self)) with same | new
      · exact same
      · exact nomatch new.absent
    · cases limited
  · obtain ⟨-, all, -⟩ := delivers _ _ _ _ prints
    simpa [bytesOf] using (all rfl).1 nofun
  · obtain ⟨-, all, -⟩ := (run_allOrNothing format full inPlace).2 _ _ _ _ prints
    have beyond : 3 < (bytesOf [leafFile.unit]).size := by decide +kernel
    have cut := (all rfl).2 3 .noSpace rfl beyond
    have message : IoFault.noSpace.message = "No space left on device (os error 28)" := by
      decide +kernel
    rw [message] at cut
    simpa [bytesOf] using cut
  · let job : Job := ⟨"schema.json", "gen", true, none⟩
    have generates : Generates ["--no-format", "schema.json", "gen"] store job leafSchema
        [leafFile.unit] := ⟨by decide +kernel, loaded, units_leafSchema⟩
    obtain ⟨-, -, writes⟩ := delivers _ _ _ _ generates
    have done : ((Work.start store).writeUnits "gen" [leafFile.unit] none).2 =
        .ok ["gen/expr.rs"] := by
      decide +kernel
    rcases written : (Work.start store).writeUnits "gen" [leafFile.unit] none with ⟨work, answer⟩
    rw [written] at done
    obtain rfl : answer = .ok ["gen/expr.rs"] := done
    have targets : ∀ category ∈ leafSchema.categories, job.target category = "gen/expr.rs" := by
      decide +kernel
    obtain ⟨succeeded, texts, found, same⟩ := writes (by decide) rfl work _ written
    rw [List.map_congr_left fun category member => by rw [targets category member]] at found
    obtain ⟨text, rfl⟩ : ∃ text, texts = [text] :=
      List.length_eq_one_iff.mp (by simpa [leafSchema] using (congrArg List.length found).symm)
    obtain rfl : text = leafFile.unit.source := by simpa using same
    exact ⟨succeeded, List.head_eq_of_cons_eq found⟩

/-- What is not all or nothing. A directory that is made on the way may be where a unit belongs; a
dash by itself is no directory, so nothing is printed; and standard output may hold a part of the
units after a failure. -/
theorem run_leafSchema_exceptions :
    let store : Store :=
      Store.empty.put ["tmp", "work", "schema.json"] (.file leafSchema.print.toUTF8)
    let format : Formatter → FormatStep := fun _ _ store => (store, none)
    let full : Console := .limited 3 .noSpace
    let onWay : Report := run format ["--no-format", "schema.json", "expr.rs/.."] store
    store.loadSchema "schema.json" = .ok leafSchema ∧ leafSchema.units = .ok [leafFile.unit] ∧
    (onWay.exit = 1 ∧ onWay.printed = .empty ∧
      onWay.store.resolve "expr.rs/../expr.rs" = .ok ["tmp", "work", "expr.rs"] ∧
      store.get? ["tmp", "work", "expr.rs"] = none ∧
      (onWay.store.get? ["tmp", "work", "expr.rs"]).isSome) ∧
    run format ["schema.json", "-"] store =
      ⟨1, .empty, ["Unrecognized argument: -", "", hint], store⟩ ∧
    (runOn format ["--", "schema.json", "-"] store full).exit = 1 ∧
      (runOn format ["--", "schema.json", "-"] store full).printed = "// ".toUTF8 := by
  intro store format full onWay
  have loaded : store.loadSchema "schema.json" = .ok leafSchema :=
    Store.loadSchema_of_print rfl (by decide +kernel)
  refine ⟨loaded, units_leafSchema, ?_, ?_, ?_⟩
  · let job : Job := ⟨"schema.json", "expr.rs/..", true, none⟩
    have asked : Request.ofArguments ["--no-format", "schema.json", "expr.rs/.."] =
        .ok (.job job) := by
      decide +kernel
    have generates : Generates ["--no-format", "schema.json", "expr.rs/.."] store job leafSchema
        [leafFile.unit] := ⟨asked, loaded, units_leafSchema⟩
    have silent : (job.deliver format [leafFile.unit] store .endless).printed = .empty := by
      rw [← generates.run_eq]
      exact generates.printed_eq_empty (by decide)
    have delivers : onWay = job.deliver format [leafFile.unit] store .endless := generates.run_eq
    rw [delivers]
    refine ⟨?_, silent, ?_, rfl, ?_⟩
    · decide +kernel
    · decide +kernel
    · decide +kernel
  · rw [run, runOn, ofArguments_dash (by decide) (by decide)]
    rfl
  · have prints : Generates ["--", "schema.json", "-"] store ⟨"schema.json", "-", false, none⟩
        leafSchema [leafFile.unit] := ⟨by decide +kernel, loaded, units_leafSchema⟩
    rw [prints.run_eq]
    constructor
    · decide +kernel
    · decide +kernel

end CommandLine

end TreeSchema
