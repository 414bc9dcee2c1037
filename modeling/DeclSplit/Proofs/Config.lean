import DeclSplit.Config

/-!
# Which values are configurations

A value is a configuration if nothing is wrong with it, and otherwise the first thing that is wrong is
reported.  What is wrong is listed here without a reader: the sections first, then each setting that is
there, in a fixed order.  A configuration has each setting from its own key.

* `Config.Setting` — the settings, with the places of their values;
* `Config.IsConfiguration` — the values that are configurations;
* `Config.violations` — all that is wrong with a value, in the order of the checks;
* `Config.ofSettings` — the configuration with the given settings, the others as by default;
* `Config.violations_eq_nil_iff` — nothing is wrong exactly with configurations;
* `Config.ofValue_ofJson` — what reading a value comes to.
-/

namespace DeclSplit.Config

open Yaml (Value)

/-! ### Settings -/

/-- The settings, in the order in which they are checked. -/
inductive Setting where
  | branch
  | grouping
  | declarations
  | arguments
  | directory
  | astFile
  | irFile
  deriving DecidableEq, Repr

namespace Setting

/-- All settings. -/
def all : List Setting :=
  [branch, grouping, declarations, arguments, directory, astFile, irFile]

theorem mem_all (setting : Setting) : setting ∈ all := by
  cases setting <;> decide

/-- The key that the value of a setting stands under. -/
def key : Setting → String
  | branch => "branch"
  | grouping => "grouping"
  | declarations => "declarations"
  | arguments => "clang_args"
  | directory => "directory"
  | astFile => "ast_file"
  | irFile => "ir_file"

/-- The section that a setting stands in, if it stands in one. -/
def section? : Setting → Option String
  | branch | grouping | declarations => some "kinds"
  | arguments => none
  | directory | astFile | irFile => some "output"

/-- Whether a setting is one text; the others are lists of texts. -/
def isText : Setting → Bool
  | grouping | directory | astFile | irFile => true
  | branch | declarations | arguments => false

/-- The value of a setting, if there is one. -/
def value? (d : Json) (setting : Setting) : Option Json :=
  match setting.section? with
  | some name => (d.member? name).bind (Json.member? setting.key)
  | none => d.member? setting.key

end Setting

/-- The sections, in the order in which they are checked. -/
def sections : List String := ["kinds", "output"]

/-- The values that are configurations: objects in which each section is an object, or counts as empty,
and each setting that is there is a text or an array of texts, as it should be. -/
inductive IsConfiguration : Json → Prop where
  | obj {members : List (String × Json)}
      (hsections : ∀ name ∈ sections, ∀ v, members.lookup name = some v →
        v.isTruthy = false ∨ ∃ inner, v = .obj inner)
      (htexts : ∀ setting : Setting, setting.isText = true →
        ∀ v, setting.value? (.obj members) = some v → ∃ s, v = .str s)
      (hlists : ∀ setting : Setting, setting.isText = false →
        ∀ v, setting.value? (.obj members) = some v → ∃ ss : List String, v = .arr (ss.map .str)) :
      IsConfiguration (.obj members)

/-! ### Violations -/

/-- The text of a text. -/
def text? : Json → Option String
  | .str s => some s
  | _ => none

/-- The texts of an array of texts. -/
def texts? : Json → Option (List String)
  | .arr items => items.mapM text?
  | _ => none

/-- What is wrong with a section. -/
def sectionViolations (d : Json) (name : String) : List Fault :=
  match d.member? name with
  | none | some (.obj _) => []
  | some v => if v.isTruthy then [.sectionNotAMapping name] else []

/-- What is wrong with a setting. -/
def Setting.violations (d : Json) (setting : Setting) : List Fault :=
  match setting.value? d with
  | none => []
  | some v =>
    if setting.isText then
      if (text? v).isSome then [] else [.notAString setting.key (Value.ofJson v).typeName]
    else if (texts? v).isSome then [] else [.notStrings setting.key]

/-- All that is wrong with a value as a configuration, in the order of the checks. -/
def violations (d : Json) : List Fault :=
  match d with
  | .obj _ => sections.flatMap (sectionViolations d) ++ Setting.all.flatMap (Setting.violations d)
  | _ => [.notAMapping]

/-- The configuration in which each setting has the given value, or the default one if none is given. -/
def ofSettings (value? : Setting → Option Json) : Config :=
  let text (setting : Setting) := (value? setting).bind text?
  let texts (setting : Setting) := (value? setting).bind texts?
  { vocabulary := {
      branchKinds := ((texts .branch).map .ofList).getD Vocabulary.standard.branchKinds
      groupingKind := (text .grouping).getD Vocabulary.standard.groupingKind
      declarationKinds := ((texts .declarations).map .ofList).getD Vocabulary.standard.declarationKinds }
    parserArguments := (texts .arguments).getD []
    output := {
      directory := .ofString ((text .directory).getD ".")
      astFile := (text .astFile).getD "ast_output.pb"
      irFile := (text .irFile).getD "ir_output.json" } }

example : ofSettings (fun _ => none) = default := rfl

/-! ### Configurations are the values with which nothing is wrong -/

theorem text?_eq_some_iff {v : Json} {s : String} : text? v = some s ↔ v = .str s := by
  cases v <;> simp [text?]

theorem mapM_text?_eq_some_iff {items : List Json} {ss : List String} :
    items.mapM text? = some ss ↔ items = ss.map .str := by
  induction items generalizing ss with
  | nil => cases ss <;> simp
  | cons v vs ih =>
    cases ss with
    | nil => simp [List.mapM_cons, Option.bind_eq_some_iff]
    | cons s ss =>
      rw [List.mapM_cons, List.map_cons, List.cons.injEq, ← text?_eq_some_iff, ← ih]
      cases text? v <;> cases vs.mapM text? <;> simp

theorem texts?_eq_some_iff {v : Json} {ss : List String} :
    texts? v = some ss ↔ v = .arr (ss.map .str) := by
  cases v <;> simp [texts?, mapM_text?_eq_some_iff]

theorem sectionViolations_eq_nil_iff {d : Json} {name : String} :
    sectionViolations d name = [] ↔
      ∀ v, d.member? name = some v → v.isTruthy = false ∨ ∃ inner, v = .obj inner := by
  rw [sectionViolations]
  cases d.member? name with
  | none => simp
  | some v => cases v <;> simp

theorem Setting.violations_eq_nil_iff {d : Json} {setting : Setting} :
    setting.violations d = [] ↔
      (setting.isText = true → ∀ v, setting.value? d = some v → ∃ s, v = .str s) ∧
      (setting.isText = false →
        ∀ v, setting.value? d = some v → ∃ ss : List String, v = .arr (ss.map .str)) := by
  rw [violations]
  cases setting.value? d with
  | none => simp
  | some v =>
    cases setting.isText <;>
      simp [Option.isSome_iff_exists, text?_eq_some_iff, texts?_eq_some_iff]

theorem violations_eq_nil_iff (d : Json) : violations d = [] ↔ IsConfiguration d := by
  cases d with
  | obj members =>
    have hsections : sections.flatMap (sectionViolations (.obj members)) = [] ↔
        ∀ name ∈ sections, sectionViolations (.obj members) name = [] := List.flatMap_eq_nil_iff
    have hsettings : Setting.all.flatMap (Setting.violations (.obj members)) = [] ↔
        ∀ setting : Setting, setting.violations (.obj members) = [] := by
      rw [List.flatMap_eq_nil_iff]
      exact ⟨fun h setting => h setting setting.mem_all, fun h setting _ => h setting⟩
    rw [violations, List.append_eq_nil_iff, hsections, hsettings]
    simp only [sectionViolations_eq_nil_iff, Setting.violations_eq_nil_iff]
    constructor
    · rintro ⟨hall, hvalues⟩
      exact .obj hall (fun setting => (hvalues setting).1) fun setting => (hvalues setting).2
    · rintro ⟨hall, htexts, hlists⟩
      exact ⟨hall, fun setting => ⟨htexts setting, hlists setting⟩⟩
  | _ => exact iff_of_false (List.cons_ne_nil Fault.notAMapping []) nofun

/-! ### Values that stand for JSON -/

theorem get?_ofJson (d : Json) (key : String) :
    (Value.ofJson d).get? key = (d.member? key).map Value.ofJson := by
  cases d with
  | obj members =>
    rw [Value.ofJson, Value.get?, Json.member?]
    induction members with
    | nil => rfl
    | cons member rest ih =>
      obtain ⟨name, v⟩ := member
      rw [Value.ofJsonMembers, List.find?_cons, List.lookup_cons]
      show Option.map Prod.snd (match name == key with | true => _ | false => _) = _
      by_cases h : name = key
      · rw [h, beq_self_eq_true]
        rfl
      · rw [beq_false_of_ne h, beq_false_of_ne (Ne.symm h)]
        exact ih
  | _ => rfl

theorem isTruthy_ofJson (v : Json) : (Value.ofJson v).isTruthy = v.isTruthy := by
  cases v with
  | arr items => cases items <;> rfl
  | obj members => cases members <;> rfl
  | _ => rfl

theorem mapM_str?_ofJsonItems (items : List Json) :
    (Value.ofJsonItems items).mapM Value.str? = items.mapM text? := by
  induction items with
  | nil => rfl
  | cons v vs ih =>
    have hv : (Value.ofJson v).str? = text? v := by cases v <;> rfl
    rw [Value.ofJsonItems, List.mapM_cons, List.mapM_cons, hv, ih]

/-! ### Checks -/

/-- A check gives a good value if nothing is wrong, and otherwise reports the first violation. -/
def Checks {σ : Type} (x : Except Fault σ) (found : List Fault) (good : σ → Prop) : Prop :=
  match found with
  | [] => ∃ s, x = .ok s ∧ good s
  | fault :: _ => x = .error fault

/-- Of two checks the second one counts if the first one finds nothing wrong. -/
theorem Checks.bind {σ τ : Type} {x : Except Fault σ} {f : σ → Except Fault τ}
    {found more : List Fault} {good : σ → Prop} {good' : τ → Prop} (hx : Checks x found good)
    (hf : ∀ s, good s → Checks (f s) more good') : Checks (x >>= f) (found ++ more) good' := by
  cases found with
  | nil =>
    obtain ⟨s, rfl, hs⟩ := hx
    exact hf s hs
  | cons fault rest =>
    obtain rfl : x = .error fault := hx
    rfl

/-- A check that reports one violation where a condition holds. -/
theorem checks_ite {σ : Type} {good : σ → Prop} {s : σ} (hs : good s) (b : Bool) (fault : Fault) :
    Checks (if !b then .ok s else .error fault) (if b then [fault] else []) good := by
  cases b with
  | false => exact ⟨s, rfl, hs⟩
  | true => rfl

/-- The entries of a section are those of its object, none if it counts as empty. -/
theorem checks_readSection (d : Json) (name : String) :
    Checks (readSection (.ofJson d) name) (sectionViolations d name) fun w =>
      ∀ key, w.get? key = ((d.member? name).bind (Json.member? key)).map Value.ofJson := by
  rw [readSection, sectionViolations, get?_ofJson]
  cases d.member? name with
  | none => exact ⟨_, rfl, fun key => rfl⟩
  | some v =>
    dsimp only [Option.map_some, Option.bind_some]
    rw [isTruthy_ofJson]
    cases v with
    | obj members =>
      cases members with
      | nil => exact ⟨_, rfl, fun key => rfl⟩
      | cons member rest => exact ⟨_, rfl, get?_ofJson (.obj (member :: rest))⟩
    | _ => exact checks_ite (fun key => rfl) _ _

/-- A setting that is one text. -/
theorem checks_readString (setting : Setting) {d : Json} {w : Value}
    (hw : w.get? setting.key = (setting.value? d).map Value.ofJson)
    (htext : setting.isText = true) (fallback : String) :
    Checks (readString w setting.key fallback) (setting.violations d)
      (· = ((setting.value? d).bind text?).getD fallback) := by
  rw [readString, Setting.violations, hw, htext]
  cases setting.value? d with
  | none => exact ⟨fallback, rfl, rfl⟩
  | some v =>
    cases v with
    | str s => exact ⟨s, rfl, rfl⟩
    | _ => rfl

/-- A setting that is a list of texts. -/
theorem checks_readStrings (setting : Setting) {d : Json} {w : Value}
    (hw : w.get? setting.key = (setting.value? d).map Value.ofJson)
    (htext : setting.isText = false) :
    Checks (readStrings w setting.key) (setting.violations d)
      (· = (setting.value? d).bind texts?) := by
  rw [readStrings, Setting.violations, hw, htext]
  cases setting.value? d with
  | none => exact ⟨none, rfl, rfl⟩
  | some v =>
    cases v with
    | arr items =>
      have hitems : (Value.ofJsonItems items).mapM Value.str? = texts? (.arr items) :=
        mapM_str?_ofJsonItems items
      dsimp only [Option.map_some, Option.bind_some, Value.ofJson]
      rw [hitems]
      cases texts? (.arr items) with
      | none => rfl
      | some ss => exact ⟨some ss, rfl, rfl⟩
    | _ => rfl

/-- A setting that is a set of texts. -/
theorem checks_readNames (setting : Setting) {d : Json} {w : Value}
    (hw : w.get? setting.key = (setting.value? d).map Value.ofJson)
    (htext : setting.isText = false) (fallback : NameSet String) :
    Checks (readNames w setting.key fallback) (setting.violations d)
      (· = (((setting.value? d).bind texts?).map .ofList).getD fallback) := by
  rw [readNames, ← List.append_nil (setting.violations d)]
  refine (checks_readStrings setting hw htext).bind fun texts htexts => ?_
  rw [← htexts]
  cases texts with
  | none => exact ⟨fallback, rfl, rfl⟩
  | some ss => exact ⟨.ofList ss, rfl, rfl⟩

theorem violations_obj (members : List (String × Json)) :
    let d := Json.obj members
    violations d =
      sectionViolations d "kinds" ++ (sectionViolations d "output" ++
        (Setting.branch.violations d ++ (Setting.grouping.violations d ++
          (Setting.declarations.violations d ++ (Setting.arguments.violations d ++
            (Setting.directory.violations d ++ (Setting.astFile.violations d ++
              (Setting.irFile.violations d ++ [])))))))) := by
  simp [violations, sections, Setting.all]

/-- A value is read as the configuration with the settings that are in it, or the first violation is
reported. -/
theorem checks_read (d : Json) :
    Checks (read (.ofJson d)) (violations d) (· = ofSettings (Setting.value? d)) := by
  cases d with
  | obj members =>
    rw [violations_obj, read.eq_def]
    dsimp only [Value.ofJson]
    rw [show Value.dict (Value.ofJsonMembers members) = Value.ofJson (.obj members) from rfl]
    generalize Json.obj members = d
    -- the checks are made in the order in which the violations are listed
    refine (checks_readSection d "kinds").bind fun kinds hkinds => ?_
    refine (checks_readSection d "output").bind fun output houtput => ?_
    refine (checks_readNames .branch (hkinds _) rfl _).bind fun branchKinds hbranch => ?_
    refine (checks_readString .grouping (hkinds _) rfl _).bind fun groupingKind hgrouping => ?_
    refine (checks_readNames .declarations (hkinds _) rfl _).bind fun declarationKinds hdeclarations => ?_
    refine (checks_readStrings .arguments (get?_ofJson d _) rfl).bind fun arguments harguments => ?_
    refine (checks_readString .directory (houtput _) rfl _).bind fun directory hdirectory => ?_
    refine (checks_readString .astFile (houtput _) rfl _).bind fun astFile hast => ?_
    refine (checks_readString .irFile (houtput _) rfl _).bind fun irFile hir => ?_
    subst hbranch hgrouping hdeclarations harguments hdirectory hast hir
    exact ⟨_, rfl, rfl⟩
  | _ => rfl

/-- Reading a value gives a configuration exactly if it is one, with each setting from its own key or as
by default, and otherwise reports the first violation. -/
theorem ofValue_ofJson (source : String) (d : Json) :
    (violations d = [] ↔ IsConfiguration d) ∧
      match violations d with
      | [] => ofValue source (.ofJson d) = .ok (ofSettings (Setting.value? d))
      | fault :: _ => ofValue source (.ofJson d) = .error (.invalid source fault) := by
  refine ⟨violations_eq_nil_iff d, ?_⟩
  have hread := checks_read d
  rw [ofValue]
  cases hfound : violations d with
  | nil =>
    rw [hfound] at hread
    obtain ⟨config, hconfig, rfl⟩ := hread
    rw [hconfig]
    rfl
  | cons fault rest =>
    rw [hfound] at hread
    rw [show read (.ofJson d) = .error fault from hread]
    rfl

/-- Both sections come before the settings in them. -/
example : violations (.obj [("kinds", .obj [("grouping", .null)]), ("output", .str "out")]) =
    [.sectionNotAMapping "output", .notAString "grouping" "NoneType"] := by decide

end DeclSplit.Config
