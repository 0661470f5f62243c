import CatalogConsole.Catalog
import CatalogConsole.Proofs.PathIdentity

/-! # The last segment of a name

The last segment of a name has no slash, and it is the name itself or stands behind a slash at the end
of it.  There is nothing more to say about it, because no other text is both (`eq_trailingId_iff`).

So what is put before a slash does not matter (`trailingId_append_slash`), and the last segment of a
path is that of what the path ends with: the id of a product set or a product, or the region of a
location.  A product set or a product whose name has been built from an id is shown with this id if it
is a segment, and else with the last segment of the id.
-/
namespace CatalogConsole

/-- A name is this text, or has it behind a slash at its end. -/
def EndsIn (name last : String) : Prop :=
  name = last ∨ ∃ front, name = front ++ "/" ++ last

/-- The last segment is a segment. -/
theorem isSegment_trailingId (name : String) : IsSegment (trailingId name) := by
  intro slash
  rw [toList_trailingId, List.mem_reverse] at slash
  have other := List.all_eq_true.mp List.all_takeWhile '/' slash
  exact absurd other (by decide)

/-- It stands at the end. -/
theorem endsIn_trailingId (name : String) : EndsIn name (trailingId name) := by
  have divided : name.toList = (name.toList.reverse.dropWhile (· ≠ '/')).reverse ++
      (trailingId name).toList := by
    rw [toList_trailingId, ← List.reverse_append, List.takeWhile_append_dropWhile,
      List.reverse_reverse]
  cases before : name.toList.reverse.dropWhile (· ≠ '/') with
  | nil =>
    rw [before, List.reverse_nil, List.nil_append] at divided
    exact .inl (String.toList_injective divided)
  | cons c more =>
    have slash : c = '/' := by
      have stop := List.head?_dropWhile_not (fun c : Char => decide (c ≠ '/')) name.toList.reverse
      rw [before] at stop
      simpa using stop
    refine .inr ⟨String.ofList more.reverse, String.toList_injective ?_⟩
    rw [divided, before, slash]
    simp

/-- **A segment at the end of a name is the last segment.** -/
theorem trailingId_of_endsIn {name last : String} (segment : IsSegment last)
    (ends : EndsIn name last) : trailingId name = last := by
  -- read from the end, the segment comes first, and then nothing or a slash
  obtain ⟨before, reversed, stops⟩ : ∃ before,
      name.toList.reverse = (String.ofList last.toList.reverse).toList ++ before ∧
        EndsSegment before := by
    rcases ends with rfl | ⟨front, rfl⟩
    · exact ⟨[], by simp, endsSegment_nil⟩
    · exact ⟨'/' :: front.toList.reverse, by simp, endsSegment_slash _⟩
  have reversible : IsSegment (String.ofList last.toList.reverse) := by
    intro slash
    exact segment (by simpa using slash)
  rw [trailingId, reversed, takeWhile_of_endsSegment reversible stops]
  simp

/-- **The last segment is the only segment that a name ends in.** -/
theorem eq_trailingId_iff {name last : String} :
    last = trailingId name ↔ IsSegment last ∧ EndsIn name last := by
  constructor
  · rintro rfl
    exact ⟨isSegment_trailingId name, endsIn_trailingId name⟩
  · rintro ⟨segment, ends⟩
    exact (trailingId_of_endsIn segment ends).symm

/-- A name is its last segment if it is a segment, and only then. -/
theorem trailingId_eq_self_iff {name : String} : trailingId name = name ↔ IsSegment name := by
  constructor
  · intro same
    rw [← same]
    exact isSegment_trailingId name
  · intro segment
    exact trailingId_of_endsIn segment (.inl rfl)

/-- **What is put before a slash does not matter.** -/
theorem trailingId_append_slash (front name : String) :
    trailingId (front ++ "/" ++ name) = trailingId name := by
  refine trailingId_of_endsIn (isSegment_trailingId name) (.inr ?_)
  rcases endsIn_trailingId name with whole | ⟨more, divided⟩
  · exact ⟨front, by rw [← whole]⟩
  · generalize trailingId name = last at divided
    refine ⟨front ++ "/" ++ more, ?_⟩
    rw [divided]
    simp only [String.append_assoc]

namespace Location

variable (l : Location) (id : String)

theorem trailingId_path : trailingId l.path = trailingId l.region := by
  have divided : l.path = ("projects/" ++ l.project ++ "/locations") ++ "/" ++ l.region := by
    simp [path, String.append_assoc]
  rw [divided, trailingId_append_slash]

theorem trailingId_productSetPath : trailingId (l.productSetPath id) = trailingId id := by
  have divided : l.productSetPath id = (l.path ++ "/productSets") ++ "/" ++ id := by
    simp [productSetPath, String.append_assoc]
  rw [divided, trailingId_append_slash]

theorem trailingId_productPath : trailingId (l.productPath id) = trailingId id := by
  have divided : l.productPath id = (l.path ++ "/products") ++ "/" ++ id := by
    simp [productPath, String.append_assoc]
  rw [divided, trailingId_append_slash]

end Location

/-! ## The id that is shown -/

/-- A product set is shown with the last segment of its name as its id. -/
theorem ProductSet.shows_id_iff {s : ProductSet} {lines : List String} (shown : s.block = .ok lines)
    (id : String) : lines[1]? = some ("Product set id: " ++ id) ↔ trailingId s.name = id := by
  rw [(block_eq_ok_iff.mp shown).2, List.getElem?_cons_succ, List.getElem?_cons_zero,
    Option.some.injEq, String.append_right_inj]

/-- So is a product. -/
theorem Product.shows_id_iff (p : Product) (id : String) :
    p.block[1]? = some ("Product id: " ++ id) ↔ trailingId p.name = id := by
  rw [block, List.getElem?_cons_succ, List.getElem?_cons_zero, Option.some.injEq,
    String.append_right_inj]

/-- **The last segment of a name** is a segment, is the name itself or stands behind a slash at its
end, and is the only text like that.  It is its own last segment.

The last segment of a path is that of the id or of the region that has been put at its end, whatever
slashes there are.  So what has a name built from an id is shown with this id just if the id is a
segment; a product set is shown at all just if the two numbers of its timestamp can be printed. -/
theorem last_segment_of_name :
    (∀ name, IsSegment (trailingId name) ∧
      (IsSegment name ∧ trailingId name = name ∨
        ∃ front, name = front ++ "/" ++ trailingId name) ∧
      (∀ last, IsSegment last → (name = last ∨ ∃ front, name = front ++ "/" ++ last) →
        last = trailingId name) ∧
      trailingId (trailingId name) = trailingId name) ∧
    (∀ (l : Location) (id : String), trailingId (l.productSetPath id) = trailingId id ∧
      trailingId (l.productPath id) = trailingId id ∧ trailingId l.path = trailingId l.region) ∧
    ∀ (l : Location) (id name : String), name = l.productSetPath id ∨ name = l.productPath id →
      (∀ s : ProductSet, s.name = name →
        ((∃ lines, s.block = .ok lines) ↔
          Numeral.Printable s.indexed.seconds ∧ Numeral.Printable s.indexed.nanos) ∧
        ∀ lines, s.block = .ok lines →
          (lines[1]? = some ("Product set id: " ++ id) ↔ IsSegment id) ∧
            lines[1]? = some ("Product set id: " ++ trailingId id)) ∧
      ∀ p : Product, p.name = name →
        (p.block[1]? = some ("Product id: " ++ id) ↔ IsSegment id) ∧
          p.block[1]? = some ("Product id: " ++ trailingId id) := by
  refine ⟨fun name => ⟨isSegment_trailingId name, ?_, ?_, ?_⟩, fun l id => ?_, ?_⟩
  · rcases endsIn_trailingId name with whole | behind
    · exact .inl ⟨trailingId_eq_self_iff.mp whole.symm, whole.symm⟩
    · exact .inr behind
  · intro last segment ends
    exact eq_trailingId_iff.mpr ⟨segment, ends⟩
  · exact trailingId_eq_self_iff.mpr (isSegment_trailingId name)
  · exact ⟨l.trailingId_productSetPath id, l.trailingId_productPath id, l.trailingId_path⟩
  · intro l id name built
    have last : trailingId name = trailingId id := by
      rcases built with rfl | rfl
      · exact l.trailingId_productSetPath id
      · exact l.trailingId_productPath id
    refine ⟨?_, ?_⟩
    · rintro s rfl
      constructor
      · exact ⟨fun ⟨_, shown⟩ => (ProductSet.block_eq_ok_iff.mp shown).1,
          fun printable => ⟨_, ProductSet.block_eq_ok_iff.mpr ⟨printable, rfl⟩⟩⟩
      · intro lines shown
        rw [ProductSet.shows_id_iff shown, ProductSet.shows_id_iff shown, last,
          trailingId_eq_self_iff]
        exact ⟨Iff.rfl, rfl⟩
    · rintro p rfl
      rw [p.shows_id_iff, p.shows_id_iff, last, trailingId_eq_self_iff]
      exact ⟨Iff.rfl, rfl⟩

/-- An id with a slash is shown cut off, and one with a slash at its end is not shown at all. -/
theorem slashed_id_is_cut :
    let l : Location := ⟨"shop", "east/1"⟩
    let cut : ProductSet := { name := l.productSetPath "shoes/summer" }
    let whole : ProductSet := { name := l.productSetPath "shoes" }
    let ended : Product := { name := l.productPath "boots/" }
    (∃ lines, cut.block = .ok lines ∧ lines[1]? = some "Product set id: summer" ∧
      lines[1]? ≠ some ("Product set id: " ++ "shoes/summer")) ∧
      (∃ lines, whole.block = .ok lines ∧ lines[1]? = some ("Product set id: " ++ "shoes")) ∧
      ended.block[1]? = some "Product id: " ∧
      "1" = trailingId l.path := by
  intro l cut whole ended
  obtain ⟨all, paths, shown⟩ := last_segment_of_name
  have summer : "summer" = trailingId "shoes/summer" :=
    (all _).2.2.1 "summer" (by decide) (.inr ⟨"shoes", rfl⟩)
  have nothing : "" = trailingId "boots/" :=
    (all _).2.2.1 "" (by decide) (.inr ⟨"boots", rfl⟩)
  have region : "1" = trailingId "east/1" :=
    (all _).2.2.1 "1" (by decide) (.inr ⟨"east", rfl⟩)
  obtain ⟨cutShown, cutLines⟩ := (shown l "shoes/summer" _ (.inl rfl)).1 cut rfl
  obtain ⟨wholeShown, wholeLines⟩ := (shown l "shoes" _ (.inl rfl)).1 whole rfl
  obtain ⟨-, endedLine⟩ := (shown l "boots/" _ (.inr rfl)).2 ended rfl
  obtain ⟨lines, isBlock⟩ := cutShown.mpr (by decide)
  obtain ⟨lines', isBlock'⟩ := wholeShown.mpr (by decide)
  obtain ⟨cutId, cutLine⟩ := cutLines lines isBlock
  obtain ⟨wholeId, -⟩ := wholeLines lines' isBlock'
  rw [← summer] at cutLine
  rw [← nothing] at endedLine
  refine ⟨⟨lines, isBlock, cutLine, fun id => absurd (cutId.mp id) (by decide)⟩,
    ⟨lines', isBlock', wholeId.mpr (by decide)⟩, endedLine, ?_⟩
  rw [(paths l "").2.2, region]

end CatalogConsole
