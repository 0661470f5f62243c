import CatalogConsole.Resource

/-! # Paths identify references

Nothing is escaped in a path, so a slash in a project or a region can be taken for one that the path
itself has, and different references can have one path.  Ids do no harm, whatever they contain,
because nothing comes after an id.

A path can be read from the front if the project and the region have no slashes: the first slash
behind `projects/` ends the project, and the first behind `/locations/`, if there is one, ends the
region (`Location.eq_of_path_append`).  What is left, `Reference.tail`, tells the kind of the
resource and its id (`Reference.tail_inj`).  In one location only the tails have to be told apart,
so there slashes do not matter at all.
-/
namespace CatalogConsole

/-- A text that is one segment of a path. -/
def IsSegment (s : String) : Prop := '/' ∉ s.toList

instance (s : String) : Decidable (IsSegment s) := inferInstanceAs (Decidable (¬ _))

/-- The project and the region are segments. -/
def Location.IsPlain (l : Location) : Prop := IsSegment l.project ∧ IsSegment l.region

instance (l : Location) : Decidable l.IsPlain := inferInstanceAs (Decidable (_ ∧ _))

/-! ## The first slash -/

/-- There is nothing, or there is a slash first. -/
def EndsSegment (rest : List Char) : Prop := ∀ c, rest.head? = some c → c = '/'

theorem endsSegment_nil : EndsSegment [] := fun _ h => by cases h

theorem endsSegment_slash (rest : List Char) : EndsSegment ('/' :: rest) :=
  fun _ h => (Option.some.inj h).symm

/-- A segment is what comes before the first slash. -/
theorem takeWhile_of_endsSegment {s : String} (segment : IsSegment s) {rest : List Char}
    (ends : EndsSegment rest) : (s.toList ++ rest).takeWhile (· ≠ '/') = s.toList := by
  have inside : ∀ c ∈ s.toList, decide (c ≠ '/') = true := by
    intro c hc
    exact decide_eq_true fun slash => segment (slash ▸ hc)
  have behind : rest.takeWhile (· ≠ '/') = [] := by
    cases rest with
    | nil => rfl
    | cons c more =>
      rw [ends c rfl]
      rfl
  rw [List.takeWhile_append_of_pos inside, behind, List.append_nil]

/-- **A segment can be told from what follows it.** -/
theorem IsSegment.eq_of_append {s s' : String} (segment : IsSegment s) (segment' : IsSegment s')
    {rest rest' : List Char} (ends : EndsSegment rest) (ends' : EndsSegment rest')
    (same : s.toList ++ rest = s'.toList ++ rest') : s = s' ∧ rest = rest' := by
  have first : s.toList = s'.toList := by
    rw [← takeWhile_of_endsSegment segment ends, same, takeWhile_of_endsSegment segment' ends']
  refine ⟨String.toList_injective first, ?_⟩
  rw [first] at same
  exact List.append_cancel_left same

/-- **A location can be told from what follows its path**, if it has no slashes. -/
theorem Location.eq_of_path_append {l l' : Location} (plain : l.IsPlain) (plain' : l'.IsPlain)
    {rest rest' : List Char} (ends : EndsSegment rest) (ends' : EndsSegment rest')
    (same : l.path.toList ++ rest = l'.path.toList ++ rest') : l = l' ∧ rest = rest' := by
  have spelled (l : Location) (rest : List Char) : l.path.toList ++ rest = "projects/".toList ++
      (l.project.toList ++ '/' :: ("locations/".toList ++ (l.region.toList ++ rest))) := by
    simp [path]
  rw [spelled, spelled] at same
  obtain ⟨project, behind⟩ := plain.1.eq_of_append plain'.1 (endsSegment_slash _)
    (endsSegment_slash _) (List.append_cancel_left same)
  obtain ⟨region, tail⟩ := plain.2.eq_of_append plain'.2 ends ends'
    (List.append_cancel_left (List.cons.inj behind).2)
  obtain ⟨p, r⟩ := l
  obtain ⟨p', r'⟩ := l'
  obtain rfl : p = p' := project
  obtain rfl : r = r' := region
  exact ⟨rfl, tail⟩

/-! ## Kinds and ids -/

namespace Reference

/-- The location that a reference refers to, or into. -/
def place : Reference → Location
  | location place | productSet place _ | product place _ => place

/-- What comes after the path of the location. -/
def tail : Reference → List Char
  | location _ => []
  | productSet _ id => '/' :: ("productSets/".toList ++ id.toList)
  | product _ id => '/' :: ("products/".toList ++ id.toList)

theorem toList_path (r : Reference) : r.path.toList = r.place.path.toList ++ r.tail := by
  cases r <;> simp [place, tail]

theorem endsSegment_tail (r : Reference) : EndsSegment r.tail := by
  cases r with
  | location l => exact endsSegment_nil
  | productSet l id => exact endsSegment_slash _
  | product l id => exact endsSegment_slash _

/-- **The tail of a path tells the kind and the id.** -/
theorem tail_inj {r r' : Reference} (place : r.place = r'.place) (same : r.tail = r'.tail) :
    r = r' := by
  -- a pair of one kind has one id; two kinds differ in the eighth letter, or one tail is empty
  cases r <;> cases r' <;> simp_all [Reference.place, tail, String.toList_inj]

/-- References without slashes in their locations have the same path only if they are the same. -/
theorem eq_of_path_of_plain {r r' : Reference} (plain : r.place.IsPlain) (plain' : r'.place.IsPlain)
    (same : r.path = r'.path) : r = r' := by
  have spelled : r.place.path.toList ++ r.tail = r'.place.path.toList ++ r'.tail := by
    rw [← toList_path, ← toList_path, same]
  obtain ⟨place, tail⟩ := Location.eq_of_path_append plain plain' r.endsSegment_tail
    r'.endsSegment_tail spelled
  exact tail_inj place tail

/-- So do references into one location. -/
theorem eq_of_path_of_place {r r' : Reference} (place : r.place = r'.place)
    (same : r.path = r'.path) : r = r' := by
  have spelled : r.place.path.toList ++ r.tail = r.place.path.toList ++ r'.tail := by
    rw [← toList_path, same, toList_path, place]
  exact tail_inj place (List.append_cancel_left spelled)

/-- **References can be told apart by their paths**: equal paths mean equal references, and there
are as many different paths as there are different references. -/
structure Identified (refs : List Reference) : Prop where
  path_eq_iff : ∀ r ∈ refs, ∀ r' ∈ refs, r.path = r'.path ↔ r = r'
  length_paths : (refs.map path).eraseDups.length = refs.eraseDups.length

/-- Where equal paths mean equal references, references and paths are repeated in the same places.
-/
theorem eraseDups_map_path : ∀ {refs : List Reference},
    (∀ r ∈ refs, ∀ r' ∈ refs, r.path = r'.path → r = r') →
      (refs.map path).eraseDups = refs.eraseDups.map path
  | [], _ => rfl
  | r :: rest, inj => by
    have repeated : rest.filter ((fun p => !p == r.path) ∘ path) =
        rest.filter (fun r' => !r' == r) := by
      refine List.filter_congr fun r' hr' => ?_
      have alike : (r'.path == r.path) = (r' == r) := by
        rw [Bool.eq_iff_iff, beq_iff_eq, beq_iff_eq]
        exact ⟨inj r' (List.mem_cons_of_mem _ hr') r List.mem_cons_self, congrArg path⟩
      rw [Function.comp_apply, alike]
    have fewer : (rest.filter fun r' => !r' == r).length ≤ rest.length := List.length_filter_le _ _
    have inside {r' : Reference} (h : r' ∈ rest.filter fun r' => !r' == r) : r' ∈ r :: rest :=
      List.mem_cons_of_mem _ (List.mem_filter.mp h).1
    rw [List.map_cons, List.eraseDups_cons, List.eraseDups_cons, List.map_cons, List.filter_map,
      repeated, eraseDups_map_path fun r₁ h₁ r₂ h₂ => inj r₁ (inside h₁) r₂ (inside h₂)]
termination_by refs => refs.length
decreasing_by exact Nat.lt_succ_of_le fewer

theorem identified_of_inj {refs : List Reference}
    (inj : ∀ r ∈ refs, ∀ r' ∈ refs, r.path = r'.path → r = r') : Identified refs where
  path_eq_iff := fun r hr r' hr' => ⟨inj r hr r' hr', congrArg path⟩
  length_paths := by rw [eraseDups_map_path inj, List.length_map]

end Reference

/-- **Paths identify references** whose projects and regions have no slashes, whatever their ids
are. In one location they do so without any condition: what the path of a location, a product set or
a product is, and of which id, cannot be mistaken. -/
theorem paths_identify_references :
    (∀ refs : List Reference, (∀ r ∈ refs, r.place.IsPlain) → Reference.Identified refs) ∧
    (∀ (l : Location) (refs : List Reference), (∀ r ∈ refs, r.place = l) →
      Reference.Identified refs) ∧
    ∀ (l : Location) (id id' : String),
      (l.productSetPath id = l.productSetPath id' ↔ id = id') ∧
      (l.productPath id = l.productPath id' ↔ id = id') ∧
      l.productSetPath id ≠ l.productPath id' ∧
      l.path ≠ l.productSetPath id ∧ l.path ≠ l.productPath id := by
  refine ⟨?_, ?_, ?_⟩
  · intro refs plain
    refine Reference.identified_of_inj fun r hr r' hr' same => ?_
    exact Reference.eq_of_path_of_plain (plain r hr) (plain r' hr') same
  · intro l refs inside
    refine Reference.identified_of_inj fun r hr r' hr' same => ?_
    exact Reference.eq_of_path_of_place ((inside r hr).trans (inside r' hr').symm) same
  · intro l id id'
    have apart (r r' : Reference) (place : r.place = r'.place) (other : r ≠ r') :
        r.path ≠ r'.path := fun same => other (Reference.eq_of_path_of_place place same)
    refine ⟨l.productSetPath_inj id id', l.productPath_inj id id', ?_, ?_, ?_⟩
    · exact apart (.productSet l id) (.product l id') rfl (by simp)
    · exact apart (.location l) (.productSet l id) rfl (by simp)
    · exact apart (.location l) (.product l id) rfl (by simp)

/-- Ids that look like the rest of a path are told apart, and so are they in a location that looks
like one; there the path of the location itself can be that of a product somewhere else. -/
theorem misleading_ids_told_apart :
    let shop : Location := ⟨"shop", "east"⟩
    let odd : Location := ⟨"shop", "east/products/a"⟩
    let ids : List Reference := [.location shop, .productSet shop "", .productSet shop "a/products/b",
      .product shop "a", .product shop "a/products/b", .product shop "a"]
    let inOdd : List Reference := [.location odd, .product odd "", .productSet odd ""]
    (∀ r ∈ ids, r.place.IsPlain) ∧ (ids.map Reference.path).eraseDups.length = 5 ∧
      (∀ r ∈ inOdd, r.place = odd) ∧ (inOdd.map Reference.path).eraseDups.length = 3 ∧
      ¬ odd.IsPlain ∧ (Reference.location odd).path = (Reference.product shop "a").path := by
  intro shop odd ids inOdd
  obtain ⟨plain, inside, -⟩ := paths_identify_references
  have allPlain : ∀ r ∈ ids, r.place.IsPlain := by decide
  have allInside : ∀ r ∈ inOdd, r.place = odd := by decide
  exact ⟨allPlain, (plain ids allPlain).length_paths.trans (by decide), allInside,
    (inside odd inOdd allInside).length_paths.trans (by decide), by decide, by decide⟩

end CatalogConsole
