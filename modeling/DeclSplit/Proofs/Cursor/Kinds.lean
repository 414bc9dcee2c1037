import DeclSplit.Cursor
import DeclSplit.Proofs.NameSet
import DeclSplit.Proofs.Text.Case
import DeclSplit.Proofs.Text.Split
import DeclSplit.Vocabulary

/-!
# Which kinds share a label

A label is written without the underscores of a name, so its words are known from the capitals alone.
Only the two abbreviations have a capital inside; each of them looks like two words.

* `CursorKind.GoesBy` — the name of a kind, with `GoesBy.rawName_eq`: its label is made from it;
* `CursorKind.plainWords` — the words of a name, with the abbreviations as the words they look like;
* `CursorKind.readWords_flatMap_capitalize` — the words can be read back from camel case;
* `CursorKind.label_eq_label_iff` — two kinds share a label if their names have the same plain words.
-/

namespace DeclSplit.CursorKind

/-! ### The name of a kind -/

/-- What follows the last dot of a text, or the whole text where there is no dot in it. -/
structure IsLastPart (text last : String) : Prop where
  dot_not_mem : '.' ∉ last.toList
  ends : text = last ∨ ∃ front, text = front ++ "." ++ last

/-- A kind goes by its own name, or, where this is missing or empty, by the last part of its
description. -/
inductive GoesBy : CursorKind → String → Prop where
  | name {name description : String} (hname : name ≠ "") : GoesBy ⟨some name, description⟩ name
  | description {own : Option String} {description name : String} (hown : own = none ∨ own = some "")
      (hlast : IsLastPart description name) : GoesBy ⟨own, description⟩ name

theorem toList_append_dot (front last : String) :
    (front ++ "." ++ last).toList = front.toList ++ '.' :: last.toList := by
  rw [String.toList_append, String.toList_append, List.append_assoc]
  rfl

theorem IsLastPart.afterLast_eq {text last : String} (h : IsLastPart text last) :
    Text.afterLast '.' text.toList = last.toList := by
  obtain ⟨hdot, rfl | ⟨front, rfl⟩⟩ := h
  · exact Text.afterLast_eq_self hdot
  · rw [toList_append_dot, Text.afterLast_append_cons hdot]

theorem GoesBy.rawName_eq {kind : CursorKind} {name : String} (h : kind.GoesBy name) :
    kind.rawName = name.toList := by
  cases h with
  | name hname => exact if_neg hname
  | description hown hlast =>
    rcases hown with rfl | rfl
    · exact hlast.afterLast_eq
    · rw [rawName]
      exact (if_pos rfl).trans hlast.afterLast_eq

/-! ### Words -/

/-- The words that a word looks like in camel case: the two abbreviations look like two words. -/
def plainWord (word : List Char) : List (List Char) :=
  if word = ['C', 'S', 'T', 'Y', 'L', 'E'] then [['C'], ['S', 'T', 'Y', 'L', 'E']]
  else if word = ['O', 'B', 'J', 'C'] then [['O', 'B', 'J'], ['C']]
  else [word]

/-- The words between the underscores of a name, without empty ones and with the abbreviations as the
words that they look like. -/
def plainWords (name : String) : List (List Char) :=
  ((name.toList.splitOn '_').filter fun part => part ≠ []).flatMap plainWord

theorem camelWord_eq (word : List Char) : camelWord word = (plainWord word).flatMap Text.capitalize := by
  rw [camelWord, plainWord]
  split
  · decide
  · split
    · decide
    · rw [List.flatMap_singleton]

theorem words_eq (name : List Char) :
    words name = (name.splitOn '_').filter fun part => part ≠ [] := by
  rw [words, Text.splitOn_eq]
  refine List.filter_congr fun part _ => ?_
  cases part <;> rfl

/-- A label is made of the plain words of the name alone. -/
theorem GoesBy.label_eq {kind : CursorKind} {name : String} (h : kind.GoesBy name) :
    kind.label = .ofList ((plainWords name).flatMap Text.capitalize) := by
  rw [label, h.rawName_eq, camelCase, words_eq, plainWords, List.flatMap_assoc,
    List.flatMap_congr fun word _ => camelWord_eq word]

/-! ### Words of capitals -/

/-- A name of a kind in capitals from A to Z and underscores. -/
def IsInCapitals (name : String) : Prop :=
  ∀ c ∈ name.toList, c.isUpper = true ∨ c = '_'

/-- A word of capitals. -/
structure IsWord (word : List Char) : Prop where
  ne_nil : word ≠ []
  capitals : ∀ c ∈ word, c.isUpper = true

/-- The plain words of a word are its letters. -/
theorem flatten_plainWord (word : List Char) : (plainWord word).flatten = word := by
  rw [plainWord]
  split
  next hcstyle => rw [hcstyle]; rfl
  next =>
    split
    next hobjc => rw [hobjc]; rfl
    next => rw [List.flatten_singleton]

theorem nil_not_mem_plainWord {word : List Char} (h : word ≠ []) : [] ∉ plainWord word := by
  rw [plainWord]
  split
  · simp
  · split
    · simp
    · simpa using h.symm

theorem IsWord.of_mem_plainWord {word w : List Char} (h : IsWord word) (hw : w ∈ plainWord word) :
    IsWord w := by
  constructor
  · rintro rfl
    exact nil_not_mem_plainWord h.ne_nil hw
  · intro c hc
    refine h.capitals c ?_
    rw [← flatten_plainWord word]
    exact List.mem_flatten.2 ⟨w, hw, hc⟩

theorem isWord_of_mem_plainWords {name : String} (hname : IsInCapitals name) :
    ∀ w ∈ plainWords name, IsWord w := by
  intro w hw
  obtain ⟨part, hpart, hw⟩ := List.mem_flatMap.1 hw
  rw [List.mem_filter, decide_eq_true_eq] at hpart
  refine IsWord.of_mem_plainWord ⟨hpart.2, fun c hc => ?_⟩ hw
  have hmem : c ∈ name.toList.filter (· ≠ '_') := by
    rw [← Text.flatten_splitOn, Text.splitOn_eq]
    exact List.mem_flatten.2 ⟨part, hpart.1, hc⟩
  rw [List.mem_filter, decide_eq_true_eq] at hmem
  exact (hname c hmem.1).resolve_right hmem.2

/-- In camel case a word is a capital and then small letters. -/
theorem IsWord.exists_capitalize {word : List Char} (h : IsWord word) :
    ∃ c cs, Text.capitalize word = c :: cs ∧ c.isLower = false ∧ ∀ d ∈ cs, d.isLower = true := by
  obtain ⟨hnil, hcapitals⟩ := h
  cases word with
  | nil => exact absurd rfl hnil
  | cons c cs =>
    refine ⟨c, cs.map Char.toLower, Text.capitalize_of_isUpper hcapitals, ?_, ?_⟩
    · exact Bool.eq_false_iff.2 (Char.not_isLower_of_isUpper (hcapitals c List.mem_cons_self))
    · intro d hd
      obtain ⟨e, he, rfl⟩ := List.mem_map.1 hd
      rw [Char.isLower_toLower_eq_isAlpha, Char.isAlpha, hcapitals e (List.mem_cons_of_mem c he),
        Bool.true_or]

/-! ### Reading back -/

/-- The words of a text in camel case, written in capitals: a word goes on as long as there are small
letters. -/
def readWords (text : List Char) : List (List Char) :=
  (text.splitBy fun _ c => c.isLower).map fun word => word.map Char.toUpper

theorem splitBy_flatMap_capitalize {ws : List (List Char)} (h : ∀ w ∈ ws, IsWord w) :
    (ws.flatMap Text.capitalize).splitBy (fun _ c => c.isLower) = ws.map Text.capitalize := by
  have hforms : ∀ m ∈ ws.map Text.capitalize,
      ∃ c cs, m = c :: cs ∧ c.isLower = false ∧ ∀ d ∈ cs, d.isLower = true := by
    intro m hm
    obtain ⟨w, hw, rfl⟩ := List.mem_map.1 hm
    exact (h w hw).exists_capitalize
  rw [List.flatMap_def]
  refine List.splitBy_flatten (fun hnil => ?_) (fun m hm => ?_) (List.Pairwise.isChain ?_)
  · obtain ⟨c, cs, hempty, -⟩ := hforms [] hnil
    exact absurd hempty (List.cons_ne_nil c cs).symm
  · obtain ⟨c, cs, rfl, -, hsmall⟩ := hforms m hm
    refine List.Pairwise.isChain (List.pairwise_cons.2 ⟨hsmall, ?_⟩)
    exact List.pairwise_of_forall_mem_list fun _ _ d hd => hsmall d hd
  · refine List.pairwise_of_forall_mem_list fun a ha b hb => ?_
    obtain ⟨c, cs, rfl, -, -⟩ := hforms a ha
    obtain ⟨d, ds, rfl, hcapital, -⟩ := hforms b hb
    exact ⟨List.cons_ne_nil c cs, List.cons_ne_nil d ds, hcapital⟩

/-- The words can be read back from camel case. -/
theorem readWords_flatMap_capitalize {ws : List (List Char)} (h : ∀ w ∈ ws, IsWord w) :
    readWords (ws.flatMap Text.capitalize) = ws := by
  rw [readWords, splitBy_flatMap_capitalize h, List.map_map]
  have hback : ∀ w ∈ ws, ((fun word => word.map Char.toUpper) ∘ Text.capitalize) w = w :=
    fun w hw => Text.map_toUpper_capitalize (h w hw).capitals
  rw [List.map_congr_left hback, List.map_id']

/-! ### Shared labels -/

variable {k l : CursorKind} {n m : String}

theorem label_eq_iff_plainWords_eq (hk : k.GoesBy n) (hl : l.GoesBy m) (hn : IsInCapitals n)
    (hm : IsInCapitals m) : k.label = l.label ↔ plainWords n = plainWords m := by
  rw [hk.label_eq, hl.label_eq]
  constructor
  · intro h
    have htext := congrArg (fun text : String => readWords text.toList) h
    simpa only [String.toList_ofList, readWords_flatMap_capitalize (isWord_of_mem_plainWords hn),
      readWords_flatMap_capitalize (isWord_of_mem_plainWords hm)] using htext
  · intro h
    rw [h]

/-- No part of a name between its underscores is empty or an abbreviation. -/
def IsPlain (name : String) : Prop :=
  ∀ part ∈ name.toList.splitOn '_',
    part ≠ [] ∧ part ≠ ['C', 'S', 'T', 'Y', 'L', 'E'] ∧ part ≠ ['O', 'B', 'J', 'C']

theorem IsPlain.plainWords_eq (h : IsPlain n) : plainWords n = n.toList.splitOn '_' := by
  have hkept : ((n.toList.splitOn '_').filter fun part => part ≠ []) = n.toList.splitOn '_' :=
    List.filter_eq_self.2 fun part hpart => decide_eq_true (h part hpart).1
  have hplain : ∀ part ∈ n.toList.splitOn '_', plainWord part = [part] := by
    intro part hpart
    obtain ⟨-, hcstyle, hobjc⟩ := h part hpart
    rw [plainWord, if_neg hcstyle, if_neg hobjc]
  rw [plainWords, hkept, List.flatMap_congr hplain, List.flatMap_singleton']

/-- A plain name is known from its words. -/
theorem IsPlain.eq_of_plainWords_eq (hn : IsPlain n) (hm : IsPlain m)
    (h : plainWords n = plainWords m) : n = m := by
  rw [hn.plainWords_eq, hm.plainWords_eq] at h
  have htext := congrArg (fun parts => ['_'].intercalate parts) h
  simp only [List.intercalate_splitOn] at htext
  exact String.toList_injective htext

theorem contains_insert_label_iff (hk : k.GoesBy n) (hl : l.GoesBy m) (hn : IsInCapitals n)
    (hm : IsInCapitals m) (kinds : NameSet String) :
    (kinds.insert k.label).contains l.label = true ↔
      plainWords n = plainWords m ∨ kinds.contains l.label = true := by
  rw [NameSet.contains_insert, Std.LawfulEqCmp.compare_eq_iff_eq, eq_comm,
    label_eq_iff_plainWords_eq hk hl hn hm]

/-- Two kinds whose names are in capitals share a label if and only if the names have the same plain words.
So two plain names never share one, and a vocabulary into which one kind is taken takes in no other kind
unless their names have the same plain words. -/
theorem label_eq_label_iff (hk : k.GoesBy n) (hl : l.GoesBy m) (hn : IsInCapitals n)
    (hm : IsInCapitals m) :
    (k.label = l.label ↔ plainWords n = plainWords m) ∧
    (IsPlain n → IsPlain m → (k.label = l.label ↔ n = m)) ∧
    ∀ v : Vocabulary,
      ({ v with branchKinds := v.branchKinds.insert k.label }.isBranch l.label = true ↔
        plainWords n = plainWords m ∨ v.isBranch l.label = true) ∧
      ({ v with groupingKind := k.label }.isGrouping l.label = true ↔ plainWords n = plainWords m) ∧
      ({ v with declarationKinds := v.declarationKinds.insert k.label }.isDeclaration l.label = true ↔
        plainWords n = plainWords m ∨ v.isDeclaration l.label = true) := by
  have hlabels := label_eq_iff_plainWords_eq hk hl hn hm
  refine ⟨hlabels, fun hplain hplain' => ?_, fun v => ⟨?_, ?_, ?_⟩⟩
  · rw [hlabels]
    exact ⟨hplain.eq_of_plainWords_eq hplain', fun h => by rw [h]⟩
  · exact contains_insert_label_iff hk hl hn hm v.branchKinds
  · rw [Vocabulary.isGrouping, beq_iff_eq, eq_comm, hlabels]
  · exact contains_insert_label_iff hk hl hn hm v.declarationKinds

theorem label_eq_label_iff_abbreviation :
    (GoesBy ⟨some "OBJC_IVAR_DECL", "CursorKind.OBJC_IVAR_DECL"⟩ "OBJC_IVAR_DECL" ∧
      GoesBy ⟨none, "CursorKind.OBJ_C__IVAR_DECL"⟩ "OBJ_C__IVAR_DECL" ∧
      IsInCapitals "OBJC_IVAR_DECL" ∧ IsInCapitals "OBJ_C__IVAR_DECL" ∧
      label ⟨some "OBJC_IVAR_DECL", "CursorKind.OBJC_IVAR_DECL"⟩ =
        label ⟨none, "CursorKind.OBJ_C__IVAR_DECL"⟩) ∧
    (GoesBy ⟨some "IF_STMT", "CursorKind.IF_STMT"⟩ "IF_STMT" ∧
      GoesBy ⟨none, "CursorKind.IFS_TMT"⟩ "IFS_TMT" ∧
      IsInCapitals "IF_STMT" ∧ IsInCapitals "IFS_TMT" ∧ IsPlain "IF_STMT" ∧ IsPlain "IFS_TMT" ∧
      label ⟨some "IF_STMT", "CursorKind.IF_STMT"⟩ ≠ label ⟨none, "CursorKind.IFS_TMT"⟩) := by
  constructor
  · have hk : GoesBy ⟨some "OBJC_IVAR_DECL", "CursorKind.OBJC_IVAR_DECL"⟩ "OBJC_IVAR_DECL" :=
      .name (by decide)
    have hl : GoesBy ⟨none, "CursorKind.OBJ_C__IVAR_DECL"⟩ "OBJ_C__IVAR_DECL" :=
      .description (.inl rfl) ⟨by decide, .inr ⟨"CursorKind", by decide⟩⟩
    have hn : IsInCapitals "OBJC_IVAR_DECL" := by simp [IsInCapitals]
    have hm : IsInCapitals "OBJ_C__IVAR_DECL" := by simp [IsInCapitals]
    exact ⟨hk, hl, hn, hm, (label_eq_label_iff hk hl hn hm).1.2 (by decide)⟩
  · have hk : GoesBy ⟨some "IF_STMT", "CursorKind.IF_STMT"⟩ "IF_STMT" := .name (by decide)
    have hl : GoesBy ⟨none, "CursorKind.IFS_TMT"⟩ "IFS_TMT" :=
      .description (.inl rfl) ⟨by decide, .inr ⟨"CursorKind", by decide⟩⟩
    have hn : IsInCapitals "IF_STMT" := by simp [IsInCapitals]
    have hm : IsInCapitals "IFS_TMT" := by simp [IsInCapitals]
    have hplain : IsPlain "IF_STMT" := by unfold IsPlain; decide
    have hplain' : IsPlain "IFS_TMT" := by unfold IsPlain; decide
    refine ⟨hk, hl, hn, hm, hplain, hplain', fun h => ?_⟩
    exact absurd (((label_eq_label_iff hk hl hn hm).2.1 hplain hplain').1 h) (by decide)

end DeclSplit.CursorKind
