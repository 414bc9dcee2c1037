import DeclSplit.Proofs.Json.Strings

/-!
# Reading back values

A value without numbers whose objects have distinct member names is read back from its indented text.
The number of steps that a reader is given only has to exceed the length of the text.

* `Json.IsPlain` — the values that are read back;
* `Json.value?_renderAt` — a value is read back, and so is where it ends;
* `Json.parse?_render` — a whole text is read back;
* `Json.isAscii_render` — what is written is ASCII.
-/

namespace DeclSplit.Json

open Text

/-! ### Plain values -/

mutual

/-- Whether there are no numbers in a value, and the members of each object have distinct names. -/
def IsPlain : Json → Prop
  | .null | .bool _ | .str _ => True
  | .int _ | .float _ => False
  | .arr items => ItemsPlain items
  | .obj members => (members.map Prod.fst).Nodup ∧ MembersPlain members

/-- Whether all items of an array are plain. -/
def ItemsPlain : List Json → Prop
  | [] => True
  | v :: vs => IsPlain v ∧ ItemsPlain vs

/-- Whether the values of all members of an object are plain. -/
def MembersPlain : List (String × Json) → Prop
  | [] => True
  | (_, v) :: ms => IsPlain v ∧ MembersPlain ms

end

theorem itemsPlain_iff (items : List Json) : ItemsPlain items ↔ ∀ v ∈ items, IsPlain v := by
  induction items with
  | nil => simp [ItemsPlain]
  | cons v vs ih => rw [ItemsPlain, ih, List.forall_mem_cons]

/-! ### Blanks -/

theorem skipBlanks_newline (level : Nat) (cs : List Char) :
    skipBlanks (newline level ++ cs) = skipBlanks cs := by
  have hblanks : ∀ n, skipBlanks (List.replicate n ' ' ++ cs) = skipBlanks cs := by
    intro n
    induction n with
    | zero => rfl
    | succ n ih => rw [List.replicate_succ, List.cons_append, skipBlanks, List.dropWhile_cons_of_pos
        (by decide)]; exact ih
  rw [newline, List.cons_append, skipBlanks, List.dropWhile_cons_of_pos (by decide)]
  exact hblanks _

theorem skipBlanks_cons {c : Char} (cs : List Char) (h : isBlank c = false) :
    skipBlanks (c :: cs) = c :: cs := by
  rw [skipBlanks, List.dropWhile_cons_of_neg (by rw [h]; decide)]

theorem skipBlanks_blank (cs : List Char) : skipBlanks (' ' :: cs) = skipBlanks cs := rfl

/-- Characters whose first is neither blank nor the end of an array. -/
def Begins (cs : List Char) : Prop :=
  ∃ c rest, cs = c :: rest ∧ isBlank c = false ∧ c ≠ ']'

theorem Begins.skipBlanks_eq {cs : List Char} (h : Begins cs) : skipBlanks cs = cs := by
  obtain ⟨c, rest, rfl, hblank, -⟩ := h
  exact skipBlanks_cons rest hblank

theorem Begins.append {cs : List Char} (h : Begins cs) (rest : List Char) : Begins (cs ++ rest) := by
  obtain ⟨c, cs, rfl, hblank, hclose⟩ := h
  exact ⟨c, cs ++ rest, rfl, hblank, hclose⟩

theorem begins_renderAt (level : Nat) {v : Json} (h : v.IsPlain) : Begins (renderAt level v) := by
  cases v with
  | null => exact ⟨'n', _, rfl, by decide, by decide⟩
  | bool b => cases b <;> exact ⟨_, _, rfl, by decide, by decide⟩
  | int n => rw [IsPlain] at h; exact h.elim
  | float x => rw [IsPlain] at h; exact h.elim
  | str s => exact ⟨'"', _, rfl, by decide, by decide⟩
  | arr items => cases items <;> exact ⟨'[', _, rfl, by decide, by decide⟩
  | obj members => cases members <;> exact ⟨'\x7b', _, rfl, by decide, by decide⟩

theorem begins_renderItems (level : Nat) {v : Json} {vs : List Json} (h : ItemsPlain (v :: vs)) :
    Begins (renderItems level (v :: vs)) := by
  rw [ItemsPlain] at h
  cases vs with
  | nil => rw [renderItems]; exact begins_renderAt level h.1
  | cons w ws =>
    rw [renderItems]
    · exact ((begins_renderAt level h.1).append _).append _
    · exact List.cons_ne_nil w ws

theorem renderMembers_eq_cons (level : Nat) (m : String × Json) (ms : List (String × Json)) :
    ∃ rest, renderMembers level (m :: ms) = '"' :: rest := by
  cases ms with
  | nil => rw [renderMembers]; exact ⟨_, rfl⟩
  | cons w ws =>
    rw [renderMembers]
    · exact ⟨_, rfl⟩
    · exact List.cons_ne_nil w ws

/-! ### One step of each reader -/

theorem value?_arr {steps : Nat} {cs inner rest : List Char} {vs : List Json}
    (hinner : skipBlanks cs = inner) (hbegins : Begins inner)
    (hitems : items? steps inner = some (vs, rest)) :
    value? (steps + 1) ('[' :: cs) = some (.arr vs, rest) := by
  obtain ⟨c, tail, rfl, -, hclose⟩ := hbegins
  rw [value?, hinner]
  split
  next heq => exact absurd (List.cons.inj heq).1 hclose
  next => rw [hitems]; rfl

theorem value?_obj {steps : Nat} {cs inner rest : List Char} {ms : List (String × Json)}
    (hinner : skipBlanks cs = '"' :: inner)
    (hmembers : members? steps ('"' :: inner) = some (ms, rest)) :
    value? (steps + 1) ('\x7b' :: cs) = some (ofMembers ms, rest) := by
  rw [value?, hinner]
  show (members? steps ('"' :: inner)).map _ = _
  rw [hmembers]
  rfl

theorem items?_last {steps : Nat} {cs rest after : List Char} {v : Json}
    (hv : value? steps cs = some (v, rest)) (hrest : skipBlanks rest = ']' :: after) :
    items? (steps + 1) cs = some ([v], after) := by
  rw [items?, hv]
  simp only [Option.bind_eq_bind, Option.bind_some, hrest]

theorem items?_cons {steps : Nat} {cs rest more after : List Char} {v : Json} {vs : List Json}
    (hv : value? steps cs = some (v, rest)) (hrest : skipBlanks rest = ',' :: more)
    (hmore : items? steps (skipBlanks more) = some (vs, after)) :
    items? (steps + 1) cs = some (v :: vs, after) := by
  rw [items?, hv]
  simp only [Option.bind_eq_bind, Option.bind_some, hrest, hmore]

theorem members?_last {steps : Nat} {cs colon rest after : List Char} {name : List Char} {v : Json}
    (hname : string? steps cs = some (name, ':' :: colon))
    (hv : value? steps (skipBlanks colon) = some (v, rest))
    (hrest : skipBlanks rest = '\x7d' :: after) :
    members? (steps + 1) ('"' :: cs) = some ([(.ofList name, v)], after) := by
  rw [members?, hname]
  simp only [Option.bind_eq_bind, Option.bind_some, skipBlanks_cons colon (show isBlank ':' = false by
    decide), hv, hrest]

theorem members?_cons {steps : Nat} {cs colon rest more after : List Char} {name : List Char}
    {v : Json} {ms : List (String × Json)}
    (hname : string? steps cs = some (name, ':' :: colon))
    (hv : value? steps (skipBlanks colon) = some (v, rest))
    (hrest : skipBlanks rest = ',' :: more)
    (hmore : members? steps (skipBlanks more) = some (ms, after)) :
    members? (steps + 1) ('"' :: cs) = some ((.ofList name, v) :: ms, after) := by
  rw [members?, hname]
  simp only [Option.bind_eq_bind, Option.bind_some, skipBlanks_cons colon (show isBlank ':' = false by
    decide), hv, hrest, hmore]

/-! ### Objects -/

/-- Members with distinct names are kept as they are. -/
theorem foldl_setMember (done : List (String × Json)) {members : List (String × Json)}
    (h : ((done ++ members).map Prod.fst).Nodup) :
    members.foldl (fun done (name, v) => setMember done name v) done = done ++ members := by
  induction members generalizing done with
  | nil => rw [List.foldl_nil, List.append_nil]
  | cons m members ih =>
    obtain ⟨name, v⟩ := m
    have hnew : done.any (·.1 == name) = false := by
      rw [List.any_eq_false]
      intro m hm heq
      rw [List.map_append, List.nodup_append] at h
      exact h.2.2 m.1 (List.mem_map_of_mem hm) name (by simp) (eq_of_beq heq)
    have hmembers : done ++ (name, v) :: members = setMember done name v ++ members := by
      rw [setMember, hnew, if_neg (by decide), List.append_assoc, List.singleton_append]
    rw [hmembers] at h ⊢
    exact ih _ h

theorem ofMembers_eq {members : List (String × Json)} (h : (members.map Prod.fst).Nodup) :
    ofMembers members = .obj members := by
  rw [ofMembers, foldl_setMember [] (by rwa [List.nil_append]), List.nil_append]

/-! ### What a text consists of -/

theorem renderString_append (s : String) (rest : List Char) :
    renderString s ++ rest = '"' :: (s.toList.flatMap escapeChar ++ '"' :: rest) := by
  rw [renderString, List.cons_append, List.cons_append, List.append_assoc, List.singleton_append]

theorem length_lt_length_renderString (s : String) : s.toList.length < (renderString s).length := by
  have hlength := length_le_length_flatMap s.toList
  rw [renderString, List.length_append, List.length_cons]
  omega

theorem renderAt_arr_append (level : Nat) (v : Json) (vs : List Json) (rest : List Char) :
    renderAt level (.arr (v :: vs)) ++ rest =
      '[' :: (newline (level + 1) ++
        (renderItems (level + 1) (v :: vs) ++ (newline level ++ ']' :: rest))) := by
  rw [renderAt]
  simp only [List.cons_append, List.append_assoc, List.nil_append]

theorem renderAt_obj_append (level : Nat) (m : String × Json) (ms : List (String × Json))
    (rest : List Char) :
    renderAt level (.obj (m :: ms)) ++ rest =
      '\x7b' :: (newline (level + 1) ++
        (renderMembers (level + 1) (m :: ms) ++ (newline level ++ '\x7d' :: rest))) := by
  rw [renderAt]
  simp only [List.cons_append, List.append_assoc, List.nil_append]

theorem renderItems_cons (level : Nat) (v w : Json) (vs : List Json) :
    renderItems level (v :: w :: vs) =
      renderAt level v ++ ',' :: (newline level ++ renderItems level (w :: vs)) := by
  rw [renderItems]
  · simp only [List.cons_append, List.append_assoc]
  · exact List.cons_ne_nil w vs

theorem renderMembers_singleton (level : Nat) (name : String) (v : Json) :
    renderMembers level [(name, v)] = renderString name ++ ':' :: ' ' :: renderAt level v := by
  rw [renderMembers]

theorem renderMembers_cons (level : Nat) (name : String) (v : Json) (m : String × Json)
    (ms : List (String × Json)) :
    renderMembers level ((name, v) :: m :: ms) =
      renderString name ++ ':' :: ' ' ::
        (renderAt level v ++ ',' :: (newline level ++ renderMembers level (m :: ms))) := by
  rw [renderMembers]
  · simp only [List.cons_append, List.append_assoc]
  · exact List.cons_ne_nil m ms

theorem length_add_length_le_renderMembers (level : Nat) (name : String) (v : Json)
    (ms : List (String × Json)) :
    (renderString name).length + (renderAt level v).length ≤
      (renderMembers level ((name, v) :: ms)).length := by
  cases ms with
  | nil =>
    rw [renderMembers_singleton]
    simp only [List.length_append, List.length_cons]
    omega
  | cons m ms =>
    rw [renderMembers_cons]
    simp only [List.length_append, List.length_cons]
    omega

/-! ### Values

The induction is on the value.  A reader passes one step less to the readers of the parts, each of which
has at least one character less to read, so that the steps never run out. -/

mutual

/-- A value is read back, and so is where it ends. -/
theorem value?_renderAt (level : Nat) {steps : Nat} (v : Json) (rest : List Char) (hv : v.IsPlain)
    (hsteps : (renderAt level v).length < steps) :
    value? steps (renderAt level v ++ rest) = some (v, rest) := by
  obtain ⟨steps, rfl⟩ := Nat.exists_eq_add_one_of_ne_zero (by omega : steps ≠ 0)
  match v with
  | .null => rfl
  | .bool true => rfl
  | .bool false => rfl
  | .int n => rw [IsPlain] at hv; exact hv.elim
  | .float x => rw [IsPlain] at hv; exact hv.elim
  | .str s =>
    have hlength := length_lt_length_renderString s
    rw [renderAt] at hsteps ⊢
    rw [renderString_append]
    show (string? steps _).map _ = _
    rw [string?_flatMap s.toList rest (by omega), Option.map_some]
    dsimp only
    rw [String.ofList_toList]
  | .arr [] => rfl
  | .arr (v :: vs) =>
    rw [IsPlain] at hv
    have hbegins := (begins_renderItems (level + 1) hv).append (newline level ++ ']' :: rest)
    have hlength := congrArg List.length (renderAt_arr_append level v vs [])
    simp only [List.length_append, List.length_cons, List.length_nil] at hlength
    rw [renderAt_arr_append]
    refine value?_arr ?_ hbegins
      (items?_renderItems (level + 1) level (v :: vs) rest (List.cons_ne_nil v vs) hv (by omega))
    rw [skipBlanks_newline, hbegins.skipBlanks_eq]
  | .obj [] => rfl
  | .obj (m :: ms) =>
    rw [IsPlain] at hv
    obtain ⟨inner, hinner⟩ := renderMembers_eq_cons (level + 1) m ms
    have hlength := congrArg List.length (renderAt_obj_append level m ms [])
    simp only [List.length_append, List.length_cons, List.length_nil] at hlength
    have hmembers := members?_renderMembers (level + 1) level (m :: ms) rest
      (List.cons_ne_nil m ms) hv.2 (show _ < steps by omega)
    rw [renderAt_obj_append]
    rw [hinner, List.cons_append] at hmembers ⊢
    rw [value?_obj ?_ hmembers, ofMembers_eq hv.1]
    rw [skipBlanks_newline, skipBlanks_cons _ (by decide)]

/-- The items of an array are read back. -/
theorem items?_renderItems (level outer : Nat) {steps : Nat} (vs : List Json) (rest : List Char)
    (hne : vs ≠ []) (hvs : ItemsPlain vs) (hsteps : (renderItems level vs).length + 1 < steps) :
    items? steps (renderItems level vs ++ (newline outer ++ ']' :: rest)) = some (vs, rest) := by
  obtain ⟨steps, rfl⟩ := Nat.exists_eq_add_one_of_ne_zero (by omega : steps ≠ 0)
  match vs with
  | [] => exact absurd rfl hne
  | [v] =>
    rw [ItemsPlain] at hvs
    rw [renderItems] at hsteps ⊢
    refine items?_last (value?_renderAt level v _ hvs.1 (by omega)) ?_
    rw [skipBlanks_newline, skipBlanks_cons _ (by decide)]
  | v :: w :: vs =>
    rw [ItemsPlain] at hvs
    rw [renderItems_cons] at hsteps ⊢
    simp only [List.length_append, List.length_cons] at hsteps
    have hbegins := begins_renderItems level hvs.2
    rw [List.append_assoc, List.cons_append, List.append_assoc]
    refine items?_cons (value?_renderAt level v _ hvs.1 (by omega)) (skipBlanks_cons _ (by decide)) ?_
    rw [skipBlanks_newline, (hbegins.append _).skipBlanks_eq]
    exact items?_renderItems level outer (w :: vs) rest (List.cons_ne_nil w vs) hvs.2 (by omega)

/-- The members of an object are read back. -/
theorem members?_renderMembers (level outer : Nat) {steps : Nat} (ms : List (String × Json))
    (rest : List Char) (hne : ms ≠ []) (hms : MembersPlain ms)
    (hsteps : (renderMembers level ms).length + 1 < steps) :
    members? steps (renderMembers level ms ++ (newline outer ++ '\x7d' :: rest)) =
      some (ms, rest) := by
  obtain ⟨steps, rfl⟩ := Nat.exists_eq_add_one_of_ne_zero (by omega : steps ≠ 0)
  match ms with
  | [] => exact absurd rfl hne
  | (name, v) :: ms =>
    rw [MembersPlain] at hms
    have hlength := length_add_length_le_renderMembers level name v ms
    have hname := length_lt_length_renderString name
    have hvalue (tail : List Char) :
        value? steps (skipBlanks (' ' :: (renderAt level v ++ tail))) = some (v, tail) := by
      rw [skipBlanks_blank, ((begins_renderAt level hms.1).append tail).skipBlanks_eq]
      exact value?_renderAt level v tail hms.1 (by omega)
    match ms with
    | [] =>
      have hlast : skipBlanks (newline outer ++ '\x7d' :: rest) = '\x7d' :: rest := by
        rw [skipBlanks_newline, skipBlanks_cons _ (by decide)]
      rw [renderMembers_singleton, List.append_assoc, renderString_append, List.cons_append,
        List.cons_append]
      rw [members?_last (string?_flatMap name.toList _ (by omega)) (hvalue _) hlast,
        String.ofList_toList]
    | m :: ms =>
      rw [renderMembers_cons] at hsteps
      simp only [List.length_append, List.length_cons] at hsteps
      have hmore := members?_renderMembers level outer (m :: ms) rest (List.cons_ne_nil m ms) hms.2
        (show _ < steps by omega)
      obtain ⟨inner, hinner⟩ := renderMembers_eq_cons level m ms
      rw [renderMembers_cons, List.append_assoc, renderString_append]
      rw [hinner] at hmore ⊢
      simp only [List.append_assoc, List.cons_append] at hmore ⊢
      rw [members?_cons (string?_flatMap name.toList _ (by omega)) (hvalue _)
        (skipBlanks_cons _ (by decide)) ?_, String.ofList_toList]
      rw [skipBlanks_newline, skipBlanks_cons _ (by decide)]
      exact hmore

end

/-- A whole text is read back. -/
theorem parse?_render {v : Json} (hv : v.IsPlain) : parse? v.render = some v := by
  have hvalue := value?_renderAt 0 v [] hv (Nat.lt_succ_self _)
  rw [List.append_nil] at hvalue
  rw [parse?, render, (begins_renderAt 0 hv).skipBlanks_eq, hvalue]
  rfl

/-! ### What is written is ASCII -/

theorem isAscii_newline (level : Nat) : IsAscii (newline level) := by
  rw [newline, isAscii_cons]
  refine ⟨by decide, fun c hc => ?_⟩
  rw [List.eq_of_mem_replicate hc]
  decide

mutual

theorem isAscii_renderAt (level : Nat) (v : Json) (hv : v.IsPlain) : IsAscii (renderAt level v) := by
  match v with
  | .null | .bool true | .bool false => simp [renderAt]
  | .int n => rw [IsPlain] at hv; exact hv.elim
  | .float x => rw [IsPlain] at hv; exact hv.elim
  | .str s => exact isAscii_renderString s
  | .arr [] => simp [renderAt]
  | .arr (v :: vs) =>
    rw [IsPlain] at hv
    have hitems := isAscii_renderItems (level + 1) (v :: vs) hv
    simp [renderAt, isAscii_newline, hitems]
  | .obj [] => simp [renderAt]
  | .obj (m :: ms) =>
    rw [IsPlain] at hv
    have hmembers := isAscii_renderMembers (level + 1) (m :: ms) hv.2
    simp [renderAt, isAscii_newline, hmembers]

theorem isAscii_renderItems (level : Nat) (vs : List Json) (hvs : ItemsPlain vs) :
    IsAscii (renderItems level vs) := by
  match vs with
  | [] => exact isAscii_nil
  | [v] =>
    rw [ItemsPlain] at hvs
    exact isAscii_renderAt level v hvs.1
  | v :: w :: vs =>
    rw [ItemsPlain] at hvs
    have hv := isAscii_renderAt level v hvs.1
    have hmore := isAscii_renderItems level (w :: vs) hvs.2
    simp [renderItems_cons, isAscii_newline, hv, hmore]

theorem isAscii_renderMembers (level : Nat) (ms : List (String × Json)) (hms : MembersPlain ms) :
    IsAscii (renderMembers level ms) := by
  match ms with
  | [] => exact isAscii_nil
  | [(name, v)] =>
    rw [MembersPlain] at hms
    have hv := isAscii_renderAt level v hms.1
    simp [renderMembers_singleton, isAscii_renderString, hv]
  | (name, v) :: m :: ms =>
    rw [MembersPlain] at hms
    have hv := isAscii_renderAt level v hms.1
    have hmore := isAscii_renderMembers level (m :: ms) hms.2
    simp [renderMembers_cons, isAscii_renderString, isAscii_newline, hv, hmore]

end

theorem isAscii_render {v : Json} (hv : v.IsPlain) : IsAscii v.render :=
  isAscii_renderAt 0 v hv

end DeclSplit.Json
