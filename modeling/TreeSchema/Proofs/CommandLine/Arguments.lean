import TreeSchema.CommandLine.Arguments

/-!
Which arguments are read as positional. Before two dashes none that looks like an option is, a
single dash among them: to print the units it has to be given after the two dashes.
-/

namespace TreeSchema.CommandLine

namespace Partial

variable {p q : Partial} {arg : String} {args rest left : List String}

/-- What has been read as positional does not look like an option. -/
structure Plain (p : Partial) : Prop where
  schema : ∀ schema ∈ p.schema?, isOption schema = false
  outdir : ∀ outdir ∈ p.outdir?, isOption outdir = false

theorem Plain.addPositional (plain : p.Plain) (noOption : isOption arg = false)
    (done : p.addPositional arg = .ok q) : q.Plain := by
  unfold Partial.addPositional at done
  split at done
  · cases done
    exact ⟨by rintro _ ⟨⟩; exact noOption, plain.outdir⟩
  · cases done
    exact ⟨plain.schema, by rintro _ ⟨⟩; exact noOption⟩
  · cases done

/-- An option and its value are taken off the arguments, and nothing becomes positional. -/
theorem Plain.addOption (plain : p.Plain) (done : p.addOption arg rest = .ok (q, left)) :
    q.Plain ∧ left ⊆ rest := by
  unfold Partial.addOption at done
  split at done
  · cases done
    exact ⟨⟨plain.schema, plain.outdir⟩, List.Subset.refl _⟩
  · cases done
  · rename_i value rest
    unfold addFormatter at done
    split at done
    · cases done
      exact ⟨⟨plain.schema, plain.outdir⟩, List.subset_cons_self _ _⟩
    · cases done
  · cases done

theorem Plain.read (plain : p.Plain) (noDashes : "--" ∉ args) (done : p.read args = .ok q) :
    q.Plain := by
  fun_induction Partial.read p args with
  | case1 p =>
    cases done
    exact plain
  | case2 p arg rest _ ih =>
    exact ih ⟨plain.schema, plain.outdir⟩ (mt (List.mem_cons_of_mem _) noDashes) done
  | case3 => exact absurd List.mem_cons_self noDashes
  | case4 => cases done
  | case5 p arg rest _ _ _ _ middle left step _ ih =>
    obtain ⟨plain, among⟩ := plain.addOption step
    exact ih plain (fun inside => noDashes (List.mem_cons_of_mem _ (among inside))) done
  | case6 => cases done
  | case7 p arg rest _ _ noOption middle step ih =>
    exact ih (plain.addPositional (by simpa using noOption) step)
      (mt (List.mem_cons_of_mem _) noDashes) done
  | case8 => cases done

end Partial

/-- Without the two dashes no job has a directory that looks like an option. -/
theorem isOption_outdir_of_notMem {args : List String} {job : Job}
    (asked : Request.ofArguments args = .ok (.job job)) (noDashes : "--" ∉ args) :
    Partial.isOption job.outdir = false := by
  unfold Request.ofArguments at asked
  split at asked
  · rename_i p done
    have plain : p.Plain := Partial.Plain.read ⟨by rintro _ ⟨⟩, by rintro _ ⟨⟩⟩ noDashes done
    unfold Partial.request at asked
    split at asked
    · cases asked
    · split at asked
      · rename_i outdir _ known
        cases asked
        exact plain.outdir outdir known
      · cases asked
      · cases asked
  · cases asked

/-- A dash in the place of the directory is refused then, whatever the schema. -/
theorem ofArguments_dash {schema : String} (plain : Partial.isOption schema = false)
    (noHelp : schema ≠ "help") :
    Request.ofArguments [schema, "-"] = .error (.unrecognized "-") := by
  have noFlag : schema ≠ "--help" := by
    rintro rfl
    cases plain
  have noDashes : schema ≠ "--" := by
    rintro rfl
    cases plain
  have first : Partial.read {} [schema, "-"] = Partial.read { schema? := some schema } ["-"] := by
    rw [Partial.read, if_neg (not_or.mpr ⟨noFlag, noHelp⟩), if_neg noDashes, plain]
    rfl
  have second : Partial.read { schema? := some schema } ["-"] = .error (.unrecognized "-") := by
    rw [Partial.read]
    rfl
  rw [Request.ofArguments, first, second]

end TreeSchema.CommandLine
