import DeclSplit.Proofs.Tree.Recursion
import DeclSplit.Tree.Listing
import Mathlib.Data.List.Forall2

/-!
# What a listing tells

The numbers of children in a listing tell where each subtree ends.  So a listing can be read back, from the
last entry to the first, and two trees whose listings agree entry by entry have one shape and agree node by
node, whatever it is in which the labels agree.

* `Tree.ofListing?_eq_some_iff` — a listing is read as the tree that it lists, and nothing else is read;
* `Tree.listing_injective` — there is at most one such tree;
* `Tree.Matches` — the listings of two trees agree entry by entry;
* `Tree.matches_of_append` — where the listing of a subtree ends does not depend on what follows;
* `Tree.matches_node_iff` — two trees match if their roots do and their children one by one.
-/

namespace DeclSplit.Tree

variable {α β : Type}

theorem listing_node (a : α) (ts : List (Tree α)) :
    (node a ts).listing = (a, ts.length) :: ts.flatMap listing := by
  rw [listing, preorder_node, List.map_cons, List.map_flatMap]
  rfl

/-! ### Reading a listing -/

theorem forestOfListing?_cons (entry : α × Nat) (entries : List (α × Nat)) :
    forestOfListing? (entry :: entries) = (forestOfListing? entries).bind (gather entry) := rfl

/-- An entry gathers the children that it counts. -/
theorem gather_append (a : α) (ts rest : List (Tree α)) :
    gather (a, ts.length) (ts ++ rest) = some (.node a ts :: rest) := by
  have hcount : ts.length ≤ (ts ++ rest).length := by
    rw [List.length_append]
    exact Nat.le_add_right _ _
  rw [gather, if_pos hcount, List.take_left, List.drop_left]

/-- What is gathered has the listing that was read. -/
theorem flatMap_listing_of_gather {entry : α × Nat} {trees ts : List (Tree α)}
    (h : gather entry trees = some ts) : ts.flatMap listing = entry :: trees.flatMap listing := by
  obtain ⟨a, count⟩ := entry
  rw [gather] at h
  split at h
  next hcount =>
    have hlength : (trees.take count).length = count := List.length_take_of_le hcount
    rw [← Option.some.inj h, List.flatMap_cons, listing_node, hlength, List.cons_append,
      ← List.flatMap_append, List.take_append_drop]
  next => exact nomatch h

/-- What is known of a tree: its listing is read as the tree, whatever is read behind it. -/
def IsReadBack (t : Tree α) : Prop :=
  ∀ rest, forestOfListing? (t.listing ++ rest) = (forestOfListing? rest).map (t :: ·)

theorem forestOfListing?_flatMap_append {ts : List (Tree α)} (hts : ∀ t ∈ ts, t.IsReadBack)
    (rest : List (α × Nat)) :
    forestOfListing? (ts.flatMap listing ++ rest) = (forestOfListing? rest).map (ts ++ ·) := by
  induction ts with
  | nil =>
    rw [List.flatMap_nil, List.nil_append]
    exact Option.map_id'.symm
  | cons t ts ih =>
    have hlater := ih fun u hu => hts u (List.mem_cons_of_mem t hu)
    rw [List.flatMap_cons, List.append_assoc, hts t List.mem_cons_self, hlater, Option.map_map]
    rfl

theorem isReadBack (t : Tree α) : t.IsReadBack := by
  induction t with
  | node a ts ih =>
    intro rest
    rw [listing_node, List.cons_append, forestOfListing?_cons, forestOfListing?_flatMap_append ih]
    cases forestOfListing? rest with
    | none => rfl
    | some trees => exact gather_append a ts trees

theorem flatMap_listing_of_forestOfListing? {entries : List (α × Nat)} {ts : List (Tree α)}
    (h : forestOfListing? entries = some ts) : ts.flatMap listing = entries := by
  induction entries generalizing ts with
  | nil => rw [← Option.some.inj h, List.flatMap_nil]
  | cons entry entries ih =>
    rw [forestOfListing?_cons, Option.bind_eq_some_iff] at h
    obtain ⟨trees, htrees, hts⟩ := h
    rw [flatMap_listing_of_gather hts, ih htrees]

/-- The trees that are read are those that are listed one after the other. -/
theorem forestOfListing?_eq_some_iff {entries : List (α × Nat)} {ts : List (Tree α)} :
    forestOfListing? entries = some ts ↔ ts.flatMap listing = entries := by
  refine ⟨flatMap_listing_of_forestOfListing?, ?_⟩
  rintro rfl
  have hnil : forestOfListing? ([] : List (α × Nat)) = some [] := rfl
  rw [← List.append_nil (ts.flatMap listing), forestOfListing?_flatMap_append fun t _ => isReadBack t,
    hnil, Option.map_some, List.append_nil]

/-- A listing is read as the tree that it lists, and nothing else is read. -/
theorem ofListing?_eq_some_iff {entries : List (α × Nat)} {t : Tree α} :
    ofListing? entries = some t ↔ t.listing = entries := by
  have hone : ofListing? entries = some t ↔ forestOfListing? entries = some [t] := by
    rw [ofListing?]
    split
    next u hu => rw [hu, Option.some.injEq, Option.some.injEq, List.cons.injEq, and_iff_left rfl]
    next hnot => exact ⟨nofun, fun h => absurd h (hnot t)⟩
  rw [hone, forestOfListing?_eq_some_iff, List.flatMap_singleton]

/-- No two trees have the same listing. -/
theorem listing_injective : Function.Injective (listing : Tree α → List (α × Nat)) := by
  intro t u h
  have ht : ofListing? u.listing = some t := ofListing?_eq_some_iff.2 h
  rw [ofListing?_eq_some_iff.2 rfl] at ht
  exact (Option.some.inj ht).symm

/-! ### Listings that agree -/

/-- Two entries of listings agree: the labels in some sense, the numbers of children in being equal. -/
def EntryMatches (r : α → β → Prop) (x : α × Nat) (y : β × Nat) : Prop :=
  r x.1 y.1 ∧ x.2 = y.2

/-- The listings of two trees agree entry by entry. -/
def Matches (r : α → β → Prop) (t : Tree α) (u : Tree β) : Prop :=
  List.Forall₂ (EntryMatches r) t.listing u.listing

variable {r : α → β → Prop}

theorem forall₂_flatMap_listing {ts : List (Tree α)} {us : List (Tree β)}
    (h : List.Forall₂ (Matches r) ts us) :
    List.Forall₂ (EntryMatches r) (ts.flatMap listing) (us.flatMap listing) :=
  List.rel_flatMap h fun _ _ htu => htu

/-- What is known of a tree: its listing ends where the listing of a tree ends that it agrees with. -/
def EndsAlike (r : α → β → Prop) (t : Tree α) : Prop :=
  ∀ (u : Tree β) (rest : List (α × Nat)) (rest' : List (β × Nat)),
    List.Forall₂ (EntryMatches r) (t.listing ++ rest) (u.listing ++ rest') →
      Matches r t u ∧ List.Forall₂ (EntryMatches r) rest rest'

/-- As many trees on both sides agree one by one. -/
theorem matches_of_flatMap_append {ts : List (Tree α)} (hts : ∀ t ∈ ts, EndsAlike r t)
    {us : List (Tree β)} (hlength : ts.length = us.length) {rest : List (α × Nat)}
    {rest' : List (β × Nat)}
    (h : List.Forall₂ (EntryMatches r) (ts.flatMap listing ++ rest) (us.flatMap listing ++ rest')) :
    List.Forall₂ (Matches r) ts us ∧ List.Forall₂ (EntryMatches r) rest rest' := by
  induction ts generalizing us with
  | nil =>
    obtain rfl : us = [] := List.length_eq_zero_iff.1 hlength.symm
    exact ⟨.nil, h⟩
  | cons t ts ih =>
    cases us with
    | nil => exact absurd hlength (Nat.succ_ne_zero _)
    | cons u us =>
      rw [List.flatMap_cons, List.flatMap_cons, List.append_assoc, List.append_assoc] at h
      obtain ⟨htu, hafter⟩ := hts t List.mem_cons_self u _ _ h
      obtain ⟨htsus, hrest⟩ :=
        ih (fun v hv => hts v (List.mem_cons_of_mem t hv)) (Nat.succ.inj hlength) hafter
      exact ⟨.cons htu htsus, hrest⟩

theorem matches_of_append (t : Tree α) : EndsAlike r t := by
  induction t with
  | node a ts ih =>
    rintro ⟨b, us⟩ rest rest' h
    rw [listing_node, listing_node, List.cons_append, List.cons_append, List.forall₂_cons] at h
    obtain ⟨⟨hroot, hlength⟩, hbelow⟩ := h
    -- the roots tell that as many subtrees follow on both sides
    obtain ⟨hchildren, hrest⟩ := matches_of_flatMap_append ih hlength hbelow
    refine ⟨?_, hrest⟩
    rw [Matches, listing_node, listing_node, List.forall₂_cons]
    exact ⟨⟨hroot, hlength⟩, forall₂_flatMap_listing hchildren⟩

/-- Two trees match if their roots do and their children one by one. -/
theorem matches_node_iff {a : α} {b : β} {ts : List (Tree α)} {us : List (Tree β)} :
    Matches r (node a ts) (node b us) ↔ r a b ∧ List.Forall₂ (Matches r) ts us := by
  rw [Matches, listing_node, listing_node, List.forall₂_cons]
  constructor
  · rintro ⟨⟨hroot, hlength⟩, hbelow⟩
    rw [← List.append_nil (ts.flatMap listing), ← List.append_nil (us.flatMap listing)] at hbelow
    exact ⟨hroot, (matches_of_flatMap_append (fun t _ => matches_of_append t) hlength hbelow).1⟩
  · rintro ⟨hroot, hchildren⟩
    exact ⟨⟨hroot, hchildren.length_eq⟩, forall₂_flatMap_listing hchildren⟩

end DeclSplit.Tree
