import DeclSplit.Process
import DeclSplit.Proofs.Output.Segments
import DeclSplit.Proofs.Pipeline.Insertion

/-!
# What a run leaves behind

A run writes the syntax tree and then the documents of its stage, each of which has a path of its own.
Nothing keeps the path of the syntax tree apart from these.

* `Pipeline.documents`, `plannedFiles` — the trees that are written as JSON, and all files of a run;
* `processFile_cases` — what a run returns and leaves behind, whatever happens;
* `processFile_not_all_or_nothing` — what can be left of a run that failed;
* `processFile_complete` — when a run succeeds;
* `processFile_readBack` — what there is after a run that wrote its output;
* `processFile_overwrites` — a run that loses the syntax tree.
-/

namespace DeclSplit

open FileSystem

/-! ### Specification -/

/-- The trees that a run up to a stage writes as JSON: the tree of the intermediate representation, or
the segments after the last stage. -/
def Pipeline.documents (v : Vocabulary) (stage : Stage) (ast : Ast) : List (Ir String) :=
  match stage with
  | .ir => [Ir.build v ast]
  | .optimized => [(Ir.build v ast).optimize v]
  | .segments => Ir.resolve (((Ir.build v ast).optimize v).segments v)

/-- The path of a document. -/
def Config.Output.documentPath (output : Config.Output) (stage : Stage) (index : Nat) : Path :=
  match stage with
  | .ir | .optimized => output.irPath
  | .segments => output.directory.join (.ofString s!"ir_segment_{index}.json")

/-- The files of the documents of a run. -/
def documentFiles (levels : Nat) (config : Config) (stage : Stage) (ast : Ast) : List Rendering :=
  (Pipeline.documents config.vocabulary stage ast).mapIdx fun i t =>
    .ofIr levels (config.output.documentPath stage i) t

/-- The files of a run in order: the syntax tree in the wire format, then each document. -/
def plannedFiles (levels : Nat) (config : Config) (stage : Stage) (ast : Ast) : List Rendering :=
  .ast config.output.astPath (Wire.encode ast) :: documentFiles levels config stage ast

/-- The planned files are carried out when the output of a run is written. -/
theorem carriedOut_writeOutput (levels : Nat) (fs : FileSystem) (config : Config) (stage : Stage)
    (ast : Ast) :
    CarriedOut config.output.directory fs (plannedFiles levels config stage ast)
      (writeOutput levels fs config.output stage ast (.run config.vocabulary stage ast)) := by
  show CarriedOut _ fs ([.ofAst config.output.astPath ast] ++ documentFiles levels config stage ast) _
  refine CarriedOut.andThen (carriedOut_writeInto fs _ _) ?_
  intro between hthere
  cases stage with
  | ir | optimized => exact .written (writtenUpTo_writeAll between _ hthere)
  | segments => exact carriedOut_writeInto between _ _

/-! ### Results -/

section Results

variable {levels : Nat} {parser : Parser} {fs : FileSystem} {source : Path} {config : Config}
  {stage : Stage}

/-- A run of a source file that cannot be parsed leaves the files as they are. -/
theorem processFile_of_not_parsed {e : ParseError}
    (hparsed : (parseSource parser fs source config.parserArguments).result = .error e)
    (write : Bool) :
    (processFile levels parser fs source config stage write).result = .error (.parsing e) ∧
      (processFile levels parser fs source config stage write).files = fs := by
  rw [processFile]
  simp only [hparsed, true_and]

/-- A run that is not to write its output leaves the files as they are. -/
theorem processFile_false {ast : Ast}
    (hparsed : (parseSource parser fs source config.parserArguments).result = .ok ast) :
    (processFile levels parser fs source config stage false).result =
        .ok ⟨ast, .run config.vocabulary stage ast, []⟩ ∧
      (processFile levels parser fs source config stage false).files = fs := by
  rw [processFile]
  simp only [hparsed, Bool.false_eq_true, if_false, true_and]

/-- A run that is to write its output does so. -/
theorem processFile_of_parsed (levels : Nat) (stage : Stage) {ast : Ast}
    (hparsed : (parseSource parser fs source config.parserArguments).result = .ok ast) :
    let written := writeOutput levels fs config.output stage ast (.run config.vocabulary stage ast)
    (processFile levels parser fs source config stage true).files = written.files ∧
      (processFile levels parser fs source config stage true).result =
        match written.error with
        | some e => .error (.writing e)
        | none => .ok ⟨ast, .run config.vocabulary stage ast, written.paths⟩ := by
  rw [processFile]
  cases herror : (writeOutput levels fs config.output stage ast
    (.run config.vocabulary stage ast)).error <;>
  simp only [hparsed, if_true, herror, and_self]

/-- If the source file cannot be parsed or nothing is to be written, the files are unchanged.
Otherwise the planned files are written into the output directory in order, up to the first that cannot
be written, and the result says what was written or why it was not. -/
theorem processFile_cases (levels : Nat) (parser : Parser) (fs : FileSystem) (source : Path)
    (config : Config) (stage : Stage) (write : Bool) :
    let processing := processFile levels parser fs source config stage write
    match (parseSource parser fs source config.parserArguments).result with
    | .error e => processing.result = .error (.parsing e) ∧ processing.files = fs
    | .ok ast =>
      if write then
        ∃ written, CarriedOut config.output.directory fs (plannedFiles levels config stage ast) written ∧
          processing.files = written.files ∧
          processing.result =
            match written.error with
            | some e => .error (.writing e)
            | none => .ok ⟨ast, .run config.vocabulary stage ast, written.paths⟩
      else
        processing.result = .ok ⟨ast, .run config.vocabulary stage ast, []⟩ ∧
          processing.files = fs := by
  intro processing
  cases hparsed : (parseSource parser fs source config.parserArguments).result with
  | error e => exact processFile_of_not_parsed hparsed write
  | ok ast =>
    cases write with
    | false => exact processFile_false hparsed
    | true =>
      exact ⟨_, carriedOut_writeOutput levels fs config stage ast,
        processFile_of_parsed levels stage hparsed⟩

/-- A run that cannot write its first file leaves the directory that it has made, and one whose writing
is broken off leaves a beginning of the file. -/
theorem processFile_not_all_or_nothing :
    let cursor : Cursor := .node ⟨⟨some "TRANSLATION_UNIT", ""⟩, some "a.c"⟩ []
    let parser : Parser := ⟨true, fun _ => .unit cursor []⟩
    let fs : FileSystem :=
      { entries := [(["a.c"], .file 0)], contents := [], workingDirectory := [] }
    let full : FileSystem := { fs with
      host.refusal? := fun _ _ _ => none
      host.interruption? := fun _ _ _ => some (1, .system 28 "No space left on device") }
    let ast : Ast := .node ⟨"TranslationUnit", "a.c"⟩ []
    let config : Config := { output := { directory := .ofString "out", astFile := "" } }
    let refused := processFile 480 parser fs (.ofString "a.c") config .ir true
    let broken := processFile 480 parser full (.ofString "a.c") {} .ir true
    (refused.result = .error (.writing (.files ⟨.isADirectory, some "out"⟩)) ∧
        fs.get? ["out"] = none ∧ refused.files.get? ["out"] = some .directory) ∧
      broken.result = .error (.writing (.files ⟨.system 28 "No space left on device", none⟩)) ∧
        full.fileAt? "ast_output.pb" = none ∧
        broken.files.Holds "ast_output.pb" ((Wire.encode ast).take 1) ∧
        (Wire.encode ast).take 1 ≠ Wire.encode ast := by
  intro cursor parser fs full ast config refused broken
  have hfails : ∀ (fs : FileSystem) (config : Config) (e : WriteError),
      (parseSource parser fs (.ofString "a.c") config.parserArguments).result = .ok ast →
      (writeOutput 480 fs config.output .ir ast (.run config.vocabulary .ir ast)).error = some e →
        (processFile 480 parser fs (.ofString "a.c") config .ir true).result =
          .error (.writing e) := by
    intro fs config e hparsed herror
    rw [(processFile_of_parsed 480 .ir hparsed).2, herror]
  refine ⟨⟨hfails fs config _ ?_ ?_, ?_, ?_⟩, hfails full {} _ ?_ ?_, ?_, ⟨1, ?_, ?_⟩, ?_⟩
  all_goals decide +kernel

/-- A run that has written its output has written all planned files. -/
theorem hasWritten_of_processFile {r : Processed}
    (h : (processFile levels parser fs source config stage true).result = .ok r) :
    (parseSource parser fs source config.parserArguments).result = .ok r.ast ∧
      r.written = (plannedFiles levels config stage r.ast).map Rendering.path ∧
      HasWritten config.output.directory fs (plannedFiles levels config stage r.ast)
        (processFile levels parser fs source config stage true).files := by
  cases hparsed : (parseSource parser fs source config.parserArguments).result with
  | error e =>
    rw [(processFile_of_not_parsed hparsed true).1] at h
    exact nomatch h
  | ok ast =>
    obtain ⟨hfiles, hresult⟩ := processFile_of_parsed levels stage hparsed
    have hcarried := carriedOut_writeOutput levels fs config stage ast
    rw [h] at hresult
    generalize writeOutput levels fs config.output stage ast (.run config.vocabulary stage ast) = w
      at hfiles hresult hcarried
    cases herror : w.error with
    | some e =>
      rw [herror] at hresult
      exact nomatch hresult
    | none =>
      rw [herror] at hresult
      obtain rfl : r = _ := Except.ok.inj hresult
      obtain ⟨hdone, -, hafter⟩ := hcarried.hasWritten_of_error_eq_none herror
      rw [hfiles]
      exact ⟨rfl, by rw [Written.paths, hdone], hafter⟩

/-- In a directory that is there a willing system writes the planned files one after the other. -/
theorem writeOutput_of_willing (stage : Stage) (ast : Ast) (hwilling : fs.host = .willing)
    (hdirectory : fs.find config.output.directory.toString = .ok .directory) :
    writeOutput levels fs config.output stage ast (.run config.vocabulary stage ast) =
      writeAll fs (plannedFiles levels config stage ast) := by
  have hinto : ∀ between plan, between.host = .willing →
      between.find config.output.directory.toString = .ok .directory →
        writeInto between config.output.directory plan = writeAll between plan := by
    intro between plan hwilling hthere
    rw [writeInto, makeDirectories_of_find hwilling hthere]
  rw [writeOutput, hinto fs _ hwilling hdirectory]
  refine Eq.trans ?_ (writeAll_append fs [.ofAst config.output.astPath ast]
    (documentFiles levels config stage ast)).symm
  refine Written.andThen_congr fun herror => ?_
  obtain ⟨-, hthere, hafter⟩ := (CarriedOut.written (writtenUpTo_writeAll fs
    [.ofAst config.output.astPath ast] hdirectory)).hasWritten_of_error_eq_none herror
  cases stage with
  | ir | optimized => rfl
  | segments => exact hinto _ _ (hafter.grows.host_eq.trans hwilling) hthere

/-- A run succeeds in a willing system if the output directory is there, no document is too deep, and no
path of the output leads to a directory or a device. -/
theorem processFile_complete (stage : Stage) {ast : Ast} (hwilling : fs.host = .willing)
    (hparsed : (parseSource parser fs source config.parserArguments).result = .ok ast)
    (hdirectory : fs.find config.output.directory.toString = .ok .directory)
    (hdepth : ∀ t ∈ Pipeline.documents config.vocabulary stage ast, t.depth ≤ levels)
    (hpaths : ∀ path ∈ (plannedFiles levels config stage ast).map Rendering.path, ∃ location,
      fs.locate path.toString = .ok location ∧
        ∀ entry, fs.get? location = some entry → entry.isFile = true) :
    ∃ r, (processFile levels parser fs source config stage true).result = .ok r ∧ r.ast = ast := by
  have hcontents : ∀ file ∈ plannedFiles levels config stage ast, ∃ contents,
      file.contents? = some contents := by
    intro file hfile
    rcases List.mem_cons.1 hfile with rfl | hdocument
    · exact ⟨_, rfl⟩
    · obtain ⟨i, hi, rfl⟩ := List.mem_mapIdx.1 hdocument
      exact ⟨_, (Ir.contents?_ofIr ..).trans (if_pos (hdepth _ (List.getElem_mem hi)))⟩
  obtain ⟨-, hresult⟩ := processFile_of_parsed levels stage hparsed
  rw [writeOutput_of_willing stage ast hwilling hdirectory,
    writeAll_complete hwilling hcontents
      fun file hfile => hpaths file.path (List.mem_map_of_mem hfile)] at hresult
  exact ⟨_, hresult, rfl⟩

/-! ### Files that are read back -/

theorem map_path_documentFiles (levels : Nat) (config : Config) (stage : Stage) (ast : Ast) :
    (documentFiles levels config stage ast).map Rendering.path =
      (List.range (Pipeline.documents config.vocabulary stage ast).length).map
        (config.output.documentPath stage) :=
  Rendering.map_path_mapIdx levels (config.output.documentPath stage) _

/-- The documents of a run have numbered paths. -/
theorem areNumbered_documentPath (config : Config) (stage : Stage) (ast : Ast) :
    AreNumbered (config.output.documentPath stage)
      (Pipeline.documents config.vocabulary stage ast).length := by
  cases stage with
  | segments => exact areNumbered_segmentPath config.output.directory _
  | ir | optimized =>
    -- there is only one document
    intro i j hij hj
    have hone : j < 1 := hj
    omega

/-- The files of the documents that were planned hold their texts. -/
theorem holdsTexts_of_hasWritten {ast : Ast} {after : FileSystem}
    (h : HasWritten config.output.directory fs (plannedFiles levels config stage ast) after) :
    HoldsTexts fs (config.output.documentPath stage)
      ((Pipeline.documents config.vocabulary stage ast).map Ir.bytes) after := by
  have hlength : ((Pipeline.documents config.vocabulary stage ast).map Ir.bytes).length =
      (Pipeline.documents config.vocabulary stage ast).length := List.length_map ..
  have hdepth : ∀ t ∈ Pipeline.documents config.vocabulary stage ast, t.depth ≤ levels := by
    refine depth_le_of_hasWritten h fun t ht => ?_
    obtain ⟨i, hi, rfl⟩ := List.mem_iff_getElem.1 ht
    exact ⟨_, List.mem_cons_of_mem _ (List.mem_mapIdx.2 ⟨i, hi, rfl⟩)⟩
  refine HasWritten.holdsTexts [.ast config.output.astPath (Wire.encode ast)]
    (documentFiles levels config stage ast) h ?_ ?_ fun i file hfile => ?_
  · rw [documentFiles, List.length_mapIdx, hlength]
  · rw [hlength]
    exact areNumbered_documentPath config stage ast
  · rw [documentFiles, List.getElem?_mapIdx] at hfile
    obtain ⟨t, ht, rfl⟩ := Option.map_eq_some_iff.1 hfile
    rw [List.getElem?_map, ht, Ir.contents?_ofIr, if_pos (hdepth t (List.mem_of_getElem? ht))]
    exact ⟨rfl, rfl⟩

/-- The file of the syntax tree holds its bytes, if no document was written to it. -/
theorem bytes_ast_of_hasWritten {ast : Ast} {after : FileSystem} {id : FileId}
    (h : HasWritten config.output.directory fs (plannedFiles levels config stage ast) after)
    (hid : after.fileAt? config.output.astPath.toString = some id)
    (hapart : some id ∉ ((List.range (Pipeline.documents config.vocabulary stage ast).length).map
      (config.output.documentPath stage)).map fun path => after.fileAt? path.toString) :
    after.bytes id = Wire.encode ast := by
  refine HasWritten.bytes_eq [] h rfl hid fun g hg hsame => hapart ?_
  have hmem := List.mem_map_of_mem (f := Rendering.path) hg
  rw [map_path_documentFiles] at hmem
  rw [← hsame]
  exact List.mem_map_of_mem (f := fun path : Path => after.fileAt? path.toString) hmem

/-- After a run that wrote its output each path leads to a file or to a device, and each file holds what
was written to it last.  If no link, no device and no further name of a file is in the way, there is a
file for each document; and so there is for the syntax tree, unless its path leads to the file of a
document. -/
theorem processFile_readBack {r : Processed}
    (h : (processFile levels parser fs source config stage true).result = .ok r) :
    let after := (processFile levels parser fs source config stage true).files
    let file := fun path : Path => after.fileAt? path.toString
    let documents := Pipeline.documents config.vocabulary stage r.ast
    let documentPath := config.output.documentPath stage
    let paths := (List.range documents.length).map documentPath
    (parseSource parser fs source config.parserArguments).result = .ok r.ast ∧
      r.written = config.output.astPath :: paths ∧
      (∀ path ∈ r.written, after.IsSink path.toString) ∧
      HoldsTexts fs documentPath (documents.map Ir.bytes) after ∧
      (∀ id, file config.output.astPath = some id → some id ∉ paths.map file →
        after.bytes id = Wire.encode r.ast) ∧
      ((∀ path ∈ paths, fs.IsPlain after path) →
        (paths.map file).Nodup ∧
        (∀ i t, documents[i]? = some t → after.Holds (documentPath i).toString t.bytes) ∧
        ∀ id, file config.output.astPath = some id → some id ∉ paths.map file →
          (r.written.map file).Nodup ∧
            after.Holds config.output.astPath.toString (Wire.encode r.ast)) := by
  intro after file documents documentPath paths
  obtain ⟨hparsed, hwritten, hafter⟩ := hasWritten_of_processFile h
  have hpaths : r.written = config.output.astPath :: paths := by
    rw [hwritten, plannedFiles, List.map_cons, map_path_documentFiles]
    rfl
  have hholds := holdsTexts_of_hasWritten hafter
  have hast : ∀ id, file config.output.astPath = some id → some id ∉ paths.map file →
      after.bytes id = Wire.encode r.ast :=
    fun id hid hapart => bytes_ast_of_hasWritten hafter hid hapart
  refine ⟨hparsed, hpaths, fun path hpath => ?sink, hholds, hast, fun hplain => ?plain⟩
  case sink =>
    rw [hwritten] at hpath
    obtain ⟨g, hg, rfl⟩ := List.mem_map.1 hpath
    exact hafter.sink g hg
  case plain =>
    have hlength : (documents.map Ir.bytes).length = documents.length := List.length_map ..
    obtain ⟨hnodup, heach⟩ := hholds.of_plain fun i hi => by
      rw [hlength] at hi
      exact hplain _ (List.mem_map_of_mem (List.mem_range.2 hi))
    rw [hlength] at hnodup
    refine ⟨hnodup, fun i t ht => heach i _ ?_, fun id hid hapart => ⟨?_, id, hid, hast id hid hapart⟩⟩
    · rw [List.getElem?_map, ht]
      rfl
    · rw [hpaths, List.map_cons, List.nodup_cons]
      exact ⟨hid ▸ hapart, hnodup⟩

end Results

/-- A file system with one source file, which has only this name. -/
theorem isSimple_source :
    let fs : FileSystem :=
      { entries := [(["a.c"], .file 0)], contents := [], workingDirectory := [] }
    fs.IsSimple := by
  intro fs
  have hentry : ∀ location entry, fs.get? location = some entry →
      entry = .directory ∨ location = ["a.c"] ∧ entry = .file 0 := by
    intro location entry h
    rw [get?] at h
    split at h
    next => exact .inl (Option.some.inj h).symm
    next =>
      rw [lookup_cons_eq_ite] at h
      split at h
      next hname => exact .inr ⟨hname, (Option.some.inj h).symm⟩
      next => cases h
  refine ⟨fun location entry h => (hentry location entry h).imp_right fun hfile => ⟨0, hfile.2⟩, ?_⟩
  rintro id ⟨first, second, hne, hfirst, hsecond⟩
  rcases hentry first _ hfirst with hdirectory | ⟨hname, -⟩
  · cases hdirectory
  rcases hentry second _ hsecond with hdirectory | ⟨hname', -⟩
  · cases hdirectory
  exact hne (hname.trans hname'.symm)

/-- Two functions, each of which is a segment, with the default configuration: there are three files,
and each of them holds what was written to it. -/
theorem processFile_readBack_two_functions :
    let cursor : Cursor := .node ⟨⟨some "TRANSLATION_UNIT", ""⟩, some "a.c"⟩
      [.node ⟨⟨some "FUNCTION_DECL", ""⟩, some "f"⟩ [],
        .node ⟨⟨some "FUNCTION_DECL", ""⟩, some "g"⟩ []]
    let parser : Parser := ⟨true, fun _ => .unit cursor []⟩
    let fs : FileSystem :=
      { entries := [(["a.c"], .file 0)], contents := [], workingDirectory := [] }
    let ast : Ast := .node ⟨"TranslationUnit", "a.c"⟩
      [.node ⟨"FunctionDecl", "f"⟩ [], .node ⟨"FunctionDecl", "g"⟩ []]
    let config : Config := {}
    let documents := Pipeline.documents config.vocabulary .segments ast
    let after := (processFile 480 parser fs (.ofString "a.c") config .segments true).files
    ∃ r, (processFile 480 parser fs (.ofString "a.c") config .segments true).result = .ok r ∧
      r.ast = ast ∧
      r.written.map Path.toString =
        ["ast_output.pb", "ir_segment_0.json", "ir_segment_1.json"] ∧
      (r.written.map fun path => after.fileAt? path.toString).Nodup ∧
      (∀ (i : Nat) (t : Ir String), documents[i]? = some t →
        after.Holds (config.output.documentPath .segments i).toString t.bytes) ∧
      after.Holds config.output.astPath.toString (Wire.encode ast) := by
  intro cursor parser fs ast config documents after
  have hparsed : (parseSource parser fs (.ofString "a.c") config.parserArguments).result =
      .ok ast := by decide +kernel
  have hdocuments : documents = (Ast.openDeclarations .standard ast).map
      (Ast.grow .standard (Ast.openDeclarations .standard ast)) :=
    Ast.segments_run_eq_map .standard ast
  have hlength : documents.length = 2 := by
    rw [hdocuments]
    decide +kernel
  have hpaths : (plannedFiles 480 config .segments ast).map Rendering.path =
      [.ofString "ast_output.pb", .ofString "ir_segment_0.json", .ofString "ir_segment_1.json"] := by
    rw [plannedFiles, List.map_cons, map_path_documentFiles]
    show _ :: (List.range documents.length).map _ = _
    rw [hlength]
    decide +kernel
  have hfree : ∀ path ∈ [Path.ofString "ast_output.pb", .ofString "ir_segment_0.json",
      .ofString "ir_segment_1.json"], fs.locate path.toString = .ok [path.toString] ∧
        fs.get? [path.toString] = none := by decide +kernel
  have hdepth : ∀ t ∈ documents, t.depth ≤ 480 := by
    rw [hdocuments]
    decide +kernel
  obtain ⟨r, hr, hast⟩ := processFile_complete .segments rfl hparsed
    (by decide +kernel) hdepth fun path hpath => by
      rw [hpaths] at hpath
      obtain ⟨hlocate, hnone⟩ := hfree path hpath
      exact ⟨_, hlocate, fun entry hentry => nomatch hnone.symm.trans hentry⟩
  obtain ⟨-, hwritten, hafter⟩ := hasWritten_of_processFile hr
  obtain ⟨-, hcons, hsink, -, -, hplain⟩ := processFile_readBack hr
  rw [hast] at hwritten hafter hcons hplain
  rw [hwritten] at hcons
  have hmem : ∀ i ∈ List.range documents.length, config.output.documentPath .segments i ∈
      (plannedFiles 480 config .segments ast).map Rendering.path := by
    intro i hi
    rw [hcons]
    exact List.mem_cons_of_mem _ (List.mem_map_of_mem hi)
  have hmem' : config.output.astPath ∈ (plannedFiles 480 config .segments ast).map Rendering.path := by
    rw [hcons]
    exact List.mem_cons_self
  obtain ⟨-, hdocument, hlast⟩ := hplain fun path hpath => by
    obtain ⟨i, hi, rfl⟩ := List.mem_map.1 hpath
    exact hafter.isPlain isSimple_source (hmem i hi)
  obtain ⟨-, id, hid, -⟩ := hafter.isPlain isSimple_source hmem'
  have hapart : some id ∉ ((List.range documents.length).map
      (config.output.documentPath .segments)).map fun path => after.fileAt? path.toString := by
    intro hsegment
    obtain ⟨path, hpath, hsame⟩ := List.mem_map.1 hsegment
    obtain ⟨i, hi, rfl⟩ := List.mem_map.1 hpath
    have hne : "ast_output.pb" ≠ Rendering.segmentFile i := by
      intro heq
      have hhead := congrArg (fun s : String => s.toList.head?) heq
      rw [Rendering.toList_segmentFile] at hhead
      exact absurd hhead (by simp)
    have hname : Path.IsName "ast_output.pb" := by
      constructor <;> decide
    exact hafter.fileAt?_ne isSimple_source hname (Rendering.isName_segmentFile i) hne hmem' (hmem i hi)
      (hid.trans hsame.symm)
  obtain ⟨hnodup, hholds⟩ := hlast id hid hapart
  refine ⟨r, hr, hast, ?_, hnodup, hdocument, hholds⟩
  rw [hwritten, hpaths]
  decide +kernel

/-- The syntax tree and the document have the same path: the document is written last and the syntax
tree is lost. -/
theorem processFile_overwrites :
    let cursor : Cursor := .node ⟨⟨some "TRANSLATION_UNIT", ""⟩, some "a.c"⟩ []
    let parser : Parser := ⟨true, fun _ => .unit cursor []⟩
    let fs : FileSystem :=
      { entries := [(["a.c"], .file 0)], contents := [], workingDirectory := [] }
    let ast : Ast := .node ⟨"TranslationUnit", "a.c"⟩ []
    let config : Config := { output := { astFile := "x", irFile := "x" } }
    let after := (processFile 480 parser fs (.ofString "a.c") config .ir true).files
    Config.ofValue "<config>" (.dict [(.str "output",
        .dict [(.str "ast_file", .str "x"), (.str "ir_file", .str "x")])]) = .ok config ∧
      ∃ r, (processFile 480 parser fs (.ofString "a.c") config .ir true).result = .ok r ∧
        r.ast = ast ∧
        ¬ (r.written.map fun path => after.fileAt? path.toString).Nodup ∧
        ¬ after.Holds config.output.astPath.toString (Wire.encode ast) := by
  intro cursor parser fs ast config after
  have hparsed : (parseSource parser fs (.ofString "a.c") config.parserArguments).result =
      .ok ast := by decide +kernel
  have hdocuments : Pipeline.documents config.vocabulary .ir ast = [Ir.ofAst .standard ast] :=
    congrArg (fun t => [t]) (Ir.build_eq_ofAst .standard ast)
  have hpaths : (plannedFiles 480 config .ir ast).map Rendering.path =
      [.ofString "x", .ofString "x"] := by
    rw [plannedFiles, List.map_cons, map_path_documentFiles, hdocuments]
    decide +kernel
  have hfree : fs.locate (Path.ofString "x").toString = .ok ["x"] ∧ fs.get? ["x"] = none := by
    decide +kernel
  have hdepth : ∀ t ∈ Pipeline.documents config.vocabulary .ir ast, t.depth ≤ 480 := by
    rw [hdocuments]
    decide +kernel
  obtain ⟨r, hr, hast⟩ := processFile_complete .ir rfl hparsed (by decide +kernel) hdepth
    fun path hpath => by
      have hx : path = .ofString "x" := by simpa [hpaths] using hpath
      rw [hx]
      exact ⟨_, hfree.1, fun entry hentry => nomatch hfree.2.symm.trans hentry⟩
  have hwritten := (hasWritten_of_processFile hr).2.1
  have hholds := (processFile_readBack hr).2.2.2.1
  rw [hast] at hwritten hholds
  refine ⟨by decide +kernel, r, hr, hast, ?_, ?_⟩
  · rw [hwritten, hpaths]
    exact fun hnodup => (List.nodup_cons.1 hnodup).1 List.mem_cons_self
  · rintro ⟨id, hfile, hbytes⟩
    have hlast := hholds.bytes 0 (Ir.ofAst .standard ast).bytes id (by rw [hdocuments]; rfl) hfile
      fun j hj hlt => by
        rw [hdocuments] at hlt
        have hone : j < 1 := hlt
        omega
    exact absurd (hlast.symm.trans hbytes) (by decide +kernel)

end DeclSplit
