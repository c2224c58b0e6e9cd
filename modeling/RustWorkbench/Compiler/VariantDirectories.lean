import RustWorkbench.Compiler.Footprint
import RustWorkbench.Library.Ids

/-!
# The directories of the wrapper variants

A variant is compiled in a directory of its own, which is removed first if it is there.  The name is
made of the binding's name, its offset and the strategy; the file of the binding is not in it, and of
its name only the characters that are safe.

* `variants_apart_iff` — different variants have different directories, and none removes what an
  earlier one left there, exactly when no two of them have one name.
* `second_file_removes_first` — two files with a binding of one name at one offset.
-/

namespace RustWorkbench.Compiler

/-! ## Names -/

/-- Another binding, or another strategy. -/
def WrapperVariant.Differs (left right : WrapperVariant) : Prop :=
  sameBinding left.binding right.binding = false ∨ left.strategy ≠ right.strategy

/-- What the name of the directory is made of is the same. -/
def WrapperVariant.SharesName (left right : WrapperVariant) : Prop :=
  safeComponent left.binding.name = safeComponent right.binding.name
    ∧ left.binding.byteStart = right.binding.byteStart ∧ left.strategy = right.strategy

theorem strategyName_injective : Function.Injective strategyName := by
  intro left right h
  cases left <;> cases right <;> first | rfl | exact absurd h (by decide)

theorem dash_notMem_strategyName (strategy : WrapperStrategy) :
    '-' ∉ (strategyName strategy).toList := by
  cases strategy <;> decide

/-- A name that ends in a strategy determines it. -/
theorem append_strategyName_inj {left right : String} {strategy other : WrapperStrategy}
    (h : left ++ "-" ++ strategyName strategy = right ++ "-" ++ strategyName other) :
    left = right ∧ strategy = other := by
  have hlist : left.toList ++ '-' :: (strategyName strategy).toList
      = right.toList ++ '-' :: (strategyName other).toList := by
    have := congrArg String.toList h
    simpa [String.toList_append] using this
  obtain ⟨hleft, hname⟩ := Ids.append_cons_inj (dash_notMem_strategyName strategy)
    (dash_notMem_strategyName other) hlist
  exact ⟨String.toList_inj.mp hleft, strategyName_injective (String.toList_inj.mp hname)⟩

/-- **When two variants have one name.** -/
theorem variantName_eq_iff {left right : WrapperVariant} :
    variantName left = variantName right ↔ left.SharesName right := by
  constructor
  · intro h
    obtain ⟨hfront, hstrategy⟩ := append_strategyName_inj h
    obtain ⟨hname, hoffset⟩ := Ids.append_dash_toString_inj hfront
    exact ⟨hname, hoffset, hstrategy⟩
  · rintro ⟨hname, hoffset, hstrategy⟩
    rw [variantName, hname, hoffset, hstrategy]
    rfl

/-- The directory of all wrappers together is no variant's. -/
theorem variantName_ne_all (variant : WrapperVariant) : variantName variant ≠ "all-wrappers" := by
  intro h
  have hlist : (safeComponent variant.binding.name ++ "-"
        ++ toString variant.binding.byteStart).toList
      ++ '-' :: (strategyName variant.strategy).toList = "all".toList ++ '-' :: "wrappers".toList := by
    have := congrArg String.toList h
    simpa [variantName, String.toList_append] using this
  obtain ⟨-, hname⟩ := Ids.append_cons_inj (dash_notMem_strategyName variant.strategy)
    (by decide) hlist
  revert hname
  cases variant.strategy <;> decide

/-! ## Directories -/

/-- The directory that a variant is compiled in. -/
def variantDirectory (crateDir : Path) (variant : WrapperVariant) : Path :=
  crateDir ++ ["variants"] ++ [variantName variant]

/-- The program changes nothing below the directory, whatever is on the disk. -/
def LeavesAlone {α : Type} (directory : Path) (program : DriverProgram α) : Prop :=
  ∀ files path, directory <+: path → afterLog program.log files path = files path

/-- Directories with different names in one directory have no file in common. -/
theorem not_prefix_of_ne {root path : Path} {name other : String} (hne : name ≠ other)
    (h : root ++ [name] <+: path) : ¬ root ++ [other] <+: path := by
  intro hother
  obtain ⟨rest, rfl⟩ := h
  obtain ⟨rest', heq⟩ := hother
  rw [List.append_assoc, List.append_assoc] at heq
  have hsplit := List.append_cancel_left heq
  exact hne (List.cons.inj hsplit).1.symm

/-- A set of variants leaves the directories with other names alone. -/
theorem compileWrapperVariantSet_leavesAlone (driver : Driver) (plan : AutofixPlan)
    (child : Nat → ChildOutput) (root : Path) {name other : String} (hne : name ≠ other)
    (variants : List WrapperVariant) :
    LeavesAlone (root ++ [name]) (compileWrapperVariantSet driver child plan root other variants) :=
  fun _ _ hpath => afterLog_of_staysIn
    (compileWrapperVariantSet_staysIn driver plan child root other variants)
    (not_prefix_of_ne hne hpath)

/-- Different variants have different directories, and what a variant leaves in its directory is not
removed by a later one, nor by the compilation with all wrappers. -/
structure VariantsApart (driver : Driver) (plan : AutofixPlan) (crateDir : Path) : Prop where
  directories : plan.wrapperVariants.Pairwise fun earlier later => earlier.Differs later →
    variantDirectory crateDir earlier ≠ variantDirectory crateDir later
  records : plan.wrapperVariants.Pairwise fun earlier later => earlier.Differs later →
    ∀ child, LeavesAlone (variantDirectory crateDir earlier)
      (compileWrapperVariantSet driver child plan (crateDir ++ ["variants"]) (variantName later)
        [later])
  together : ∀ variant ∈ plan.wrapperVariants, ∀ child,
    LeavesAlone (variantDirectory crateDir variant)
      (compileWrapperVariantSet driver child plan (crateDir ++ ["variants"]) "all-wrappers"
        plan.wrapperVariants)

/-- **Different variants are kept apart** exactly when no two of them have the same name, as far as
it is safe, the same offset and the same strategy. -/
theorem variants_apart_iff (driver : Driver) (plan : AutofixPlan) (crateDir : Path) :
    VariantsApart driver plan crateDir ↔ plan.wrapperVariants.Pairwise fun earlier later =>
      earlier.Differs later → ¬ earlier.SharesName later := by
  constructor
  · intro h
    refine h.directories.imp fun {earlier later} hapart hdiffers hshares => ?_
    apply hapart hdiffers
    rw [variantDirectory, variantDirectory, variantName_eq_iff.mpr hshares]
  · intro h
    refine ⟨h.imp fun {earlier later} hname hdiffers hsame => ?_,
      h.imp fun {earlier later} hname hdiffers child => ?_, fun variant _ child => ?_⟩
    · have hlast := List.append_cancel_left hsame
      exact hname hdiffers (variantName_eq_iff.mp (List.singleton_inj.mp hlast))
    · exact compileWrapperVariantSet_leavesAlone driver plan child _
        (fun hsame => hname hdiffers (variantName_eq_iff.mp hsame)) _
    · exact compileWrapperVariantSet_leavesAlone driver plan child _ (variantName_ne_all variant) _

/-! ## Two files -/

/-- A binding `x` at the start of the file. -/
def variantIn (file : String) : WrapperVariant where
  binding := ⟨["", "w", file], 0, "x"⟩
  trigger := ⟨["", "w", file], 0, 1⟩
  strategy := .rc
  edits := []

def twoFiles : AutofixPlan where
  sources := [⟨["", "w", "a.rs"], "", some ['x']⟩, ⟨["", "w", "b.rs"], "", some ['x']⟩]
  repairs := []
  crateName := "main"
  stableCrateId := 0
  wrapperVariants := [variantIn "a.rs", variantIn "b.rs"]
  wrapperRejections := []

def twoFilesDriver : Driver where
  args := ["a.rs"]
  outputRoot := ["", "out"]
  workDir := ["", "tmp", "work"]
  workspace := ["", "w"]

/-- The files have nothing in common but the name and the offset of a binding; the second variant
removes the directory of the first and puts its own record there. -/
theorem second_file_removes_first :
    (variantIn "a.rs").Differs (variantIn "b.rs")
      ∧ variantDirectory ["", "out", "main"] (variantIn "a.rs")
        = variantDirectory ["", "out", "main"] (variantIn "b.rs")
      ∧ (∀ child, ∃ log, (compileWrapperVariantSet twoFilesDriver child twoFiles
          (["", "out", "main"] ++ ["variants"]) (variantName (variantIn "b.rs"))
          [variantIn "b.rs"]).log
        = .disk (.removeAll (variantDirectory ["", "out", "main"] (variantIn "a.rs"))) :: log)
      ∧ ¬ VariantsApart twoFilesDriver twoFiles ["", "out", "main"] := by
  have hdiffers : (variantIn "a.rs").Differs (variantIn "b.rs") := .inl (by decide)
  refine ⟨hdiffers, rfl, fun child => ⟨_, rfl⟩, fun h => ?_⟩
  have hpair := List.rel_of_pairwise_cons h.directories (List.mem_singleton_self _)
  exact hpair hdiffers rfl

end RustWorkbench.Compiler
