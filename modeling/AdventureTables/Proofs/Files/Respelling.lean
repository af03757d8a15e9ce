import AdventureTables.Program.Output
import AdventureTables.Proofs.Files.Moves
import AdventureTables.Proofs.Text.Lossy
import Mathlib.Logic.Relation
/-!
# The name of a path, however it is spelled

The last name of a path is that of its last component.  What stands behind a slash
settles it, unless nothing there is a component; then what stands before the slash
does (`fileName?_append_slash`).  So it stays the same when a slash is doubled, when
a slash or `/.` is added, and when a path with a name is put into a directory
(`Path.Respelling.fileName?_eq`), and when all of these are done or undone in any
order.  Paths that are equal by components have the same name, too.

The source file includes the header by this name, as it is shown.  Nothing that is
shown of a name is empty or holds a slash.
-/

namespace AdventureTables

namespace Path

variable {path other : Path} {name : Name}

/-! ## The last component -/

/-- The name that a component is. -/
def Component.name? : Component → Option Name
  | .name name => some name
  | _ => none

theorem fileName?_eq (path : Path) :
    path.fileName? = path.components.getLast?.bind Component.name? := by
  unfold fileName?
  cases path.components.getLast? with
  | none => rfl
  | some component => cases component <;> rfl

/-- A piece is a name wherever it stands. -/
theorem component?_eq_name_iff {first : Bool} {piece : Name} :
    component? first piece = some (.name name) ↔
      piece = name ∧ piece ≠ [] ∧ piece ≠ dot ∧ piece ≠ dotDot := by
  unfold component?
  grind

/-- The components behind a slash. -/
def componentsBehind (octets : List UInt8) : List Component :=
  (pieces octets).filterMap (component? false)

/-- A slash at the start is the root. -/
theorem components_slash (rest : List UInt8) :
    components ⟨slash :: rest⟩ = .root :: componentsBehind rest := by
  simp [components, isAbsolute, pieces, component?, componentsBehind]

/-- A slash that is not at the start leaves the components before it as they
are. -/
theorem components_append_slash {first : List UInt8} (h : first ≠ []) (rest : List UInt8) :
    components ⟨first ++ slash :: rest⟩ = components ⟨first⟩ ++ componentsBehind rest := by
  obtain ⟨octet, octets, rfl⟩ := List.exists_cons_of_ne_nil h
  have habsolute : isAbsolute ⟨octet :: octets ++ slash :: rest⟩ = isAbsolute ⟨octet :: octets⟩ :=
    rfl
  rw [components_eq, habsolute, components_eq, pieces_append_slash, componentsBehind]
  obtain ⟨piece, pieces, hpieces⟩ := List.exists_cons_of_ne_nil (pieces_ne_nil (octet :: octets))
  simp [hpieces, piecesComponents]

/-- What stands behind a slash settles the name of a path, if it has any
component. -/
theorem fileName?_append_slash (first rest : List UInt8) :
    fileName? ⟨first ++ slash :: rest⟩ =
      match (componentsBehind rest).getLast? with
      | some component => component.name?
      | none => fileName? ⟨first⟩ := by
  by_cases hempty : first = []
  · subst hempty
    rw [fileName?_eq, List.nil_append, components_slash, ← List.singleton_append,
      List.getLast?_append]
    cases (componentsBehind rest).getLast? <;> rfl
  · rw [fileName?_eq, components_append_slash hempty, List.getLast?_append, fileName?_eq]
    cases (componentsBehind rest).getLast? <;> rfl

/-- The name of a path is that of its last component behind any slash. -/
theorem getLast?_componentsBehind (h : path.fileName? = some name) :
    (componentsBehind path.octets).getLast? = some (.name name) := by
  obtain ⟨component, hlast, hname⟩ := Option.bind_eq_some_iff.mp ((fileName?_eq path).symm.trans h)
  obtain rfl : component = .name name := by
    cases component <;> simp_all [Component.name?]
  obtain ⟨first, others, hpieces⟩ := List.exists_cons_of_ne_nil (pieces_ne_nil path.octets)
  rw [components_eq, hpieces, piecesComponents, List.getLast?_append, List.getLast?_append] at hlast
  rw [componentsBehind, hpieces]
  cases hothers : (others.filterMap (component? false)).getLast? with
  | some component =>
      obtain rfl : component = .name name := by simpa [hothers] using hlast
      rw [← List.singleton_append, List.filterMap_append, List.getLast?_append, hothers]
      rfl
  | none =>
      -- Only the first piece is a component, so it is the name: the root is none.
      have hfirst : component? true first = some (.name name) := by
        cases hpiece : component? true first with
        | some component => simpa [hothers, hpiece] using hlast
        | none => cases habsolute : path.isAbsolute <;> simp [hothers, hpiece, habsolute] at hlast
      have hbehind : component? false first = some (.name name) :=
        component?_eq_name_iff.mpr (component?_eq_name_iff.mp hfirst)
      rw [List.filterMap_cons, hbehind, List.getLast?_eq_none_iff.mp hothers]
      rfl

/-- A name is not empty and holds no slash. -/
theorem ordinary_of_fileName? (h : path.fileName? = some name) : name ≠ [] ∧ slash ∉ name := by
  have hmem := List.mem_of_getLast? (getLast?_componentsBehind h)
  obtain ⟨piece, hpiece, hcomponent⟩ := List.mem_filterMap.mp hmem
  obtain ⟨rfl, hempty, -⟩ := component?_eq_name_iff.mp hcomponent
  exact ⟨hempty, slash_notMem_of_mem_pieces hpiece⟩

/-! ## Other spellings -/

/-- A path is spelled in another way that keeps its name. -/
inductive Respelling : Path → Path → Prop
  | doubled (first rest : List UInt8) :
      Respelling ⟨first ++ slash :: rest⟩ ⟨first ++ slash :: slash :: rest⟩
  | slashed (path : Path) : Respelling path ⟨path.octets ++ [slash]⟩
  | dotted (path : Path) : Respelling path ⟨path.octets ++ slash :: dot⟩
  | inside (directory : List UInt8) {path : Path} (h : path.fileName? ≠ none) :
      Respelling path ⟨directory ++ slash :: path.octets⟩

theorem Respelling.fileName?_eq (h : Respelling path other) :
    other.fileName? = path.fileName? := by
  cases h with
  | doubled first rest =>
      have hbehind : componentsBehind (slash :: rest) = componentsBehind rest := by
        simp [componentsBehind, pieces, component?]
      rw [fileName?_append_slash, fileName?_append_slash, hbehind]
  | slashed => rw [fileName?_append_slash]; rfl
  | dotted => rw [fileName?_append_slash]; rfl
  | inside directory h =>
      obtain ⟨name, hname⟩ := Option.ne_none_iff_exists'.mp h
      rw [fileName?_append_slash, getLast?_componentsBehind hname, hname]
      rfl

/-- However often a path is spelled in another way, and back, it keeps its
name. -/
theorem fileName?_eq_of_respellings (h : Relation.EqvGen Respelling path other) :
    other.fileName? = path.fileName? := by
  induction h with
  | rel path other h => exact h.fileName?_eq
  | refl path => rfl
  | symm path other h ih => exact ih.symm
  | trans path between other h hother ih ihother => exact ihother.trans ih

end Path

variable {paths others : OutputPaths}

/-- A header without a name is included as `newdb.h`. -/
theorem includeName_eq_match (paths : OutputPaths) :
    paths.includeName = match paths.header.components.getLast? with
      | some (.name name) => Utf8.lossy name
      | _ => "newdb.h" := by
  rw [OutputPaths.includeName, Path.fileName?]
  cases paths.header.components.getLast? with
  | none => rfl
  | some component => cases component <;> rfl

theorem includeName_congr (h : others.header.fileName? = paths.header.fileName?) :
    others.includeName = paths.includeName := by
  rw [OutputPaths.includeName, OutputPaths.includeName, h]

theorem includeName_of_same (h : paths.same others = true) :
    others.includeName = paths.includeName := by
  obtain ⟨hheader, -⟩ := Bool.and_eq_true_iff.mp h
  apply includeName_congr
  rw [Path.fileName?_eq, Path.fileName?_eq, of_decide_eq_true hheader]

theorem includeName_standard : OutputPaths.standard.includeName = "newdb.h" := by
  have hname : OutputPaths.standard.header.fileName? = some (Utf8.octets "newdb.h") := by decide
  rw [OutputPaths.includeName, hname]
  exact Utf8.lossy_octets "newdb.h"

/-- What is shown of a name is something, and no path. -/
theorem includeName_ordinary (paths : OutputPaths) :
    paths.includeName ≠ "" ∧ '/' ∉ paths.includeName.toList := by
  unfold OutputPaths.includeName
  split
  · next name hname =>
    obtain ⟨hempty, hslash⟩ := Path.ordinary_of_fileName? hname
    exact ⟨Utf8.lossy_ne_empty hempty, Utf8.slash_notMem_lossy hslash⟩
  · decide

/-- **The include name is that of the last component.**  It is not empty and holds no
slash.  It is what is shown of the last component of the path of the header, if that
is a name, and `newdb.h` otherwise.  It stays the same if a slash of the path is
doubled, if a slash or `/.` is added, and if a path with a name is put into a
directory, and if any of this is done or undone in any order.  Paths that name the
same places have the same include name, so those that name the standard places have
`newdb.h`. -/
theorem includeName_of_last_component (paths : OutputPaths) :
    (paths.includeName ≠ "" ∧ '/' ∉ paths.includeName.toList) ∧
    (paths.includeName = match paths.header.components.getLast? with
      | some (.name name) => Utf8.lossy name
      | _ => "newdb.h") ∧
    (∀ others : OutputPaths, Relation.EqvGen Path.Respelling paths.header others.header →
      others.includeName = paths.includeName) ∧
    (∀ others : OutputPaths, paths.same others = true →
      others.includeName = paths.includeName) ∧
    (paths.same .standard = true → paths.includeName = "newdb.h") := by
  refine ⟨includeName_ordinary paths, includeName_eq_match paths, fun others hspelled => ?_,
    fun others hsame => includeName_of_same hsame, fun hsame => ?_⟩
  · exact includeName_congr (Path.fileName?_eq_of_respellings hspelled)
  · exact (includeName_of_same hsame).symm.trans includeName_standard

/-- A header whose name is no text. -/
def strayPaths : OutputPaths :=
  ⟨⟨[0x74, 0xFF]⟩, .ofText "c"⟩

/-- A header of this name in a directory, with a slash too many and `/.` behind. -/
def nestedStrayPaths : OutputPaths :=
  ⟨⟨Utf8.octets "./d//" ++ [0x74, 0xFF] ++ Utf8.octets "/."⟩, .ofText "c"⟩

/-- The usual paths, spelled in another way. -/
def slashedPaths : OutputPaths :=
  ⟨.ofText "newdb.h//.", .ofText "newdb.c/"⟩

/-- Headers of one name are included by it, and the usual header by its own. -/
theorem includeName_nestedStrayPaths :
    Relation.EqvGen Path.Respelling strayPaths.header nestedStrayPaths.header ∧
    nestedStrayPaths.includeName = "t\uFFFD" ∧
    slashedPaths.same .standard = true ∧
    OutputPaths.standard.includeName = slashedPaths.includeName ∧
    slashedPaths.includeName = "newdb.h" := by
  have hdotted : Path.Respelling ⟨[0x74, 0xFF]⟩ ⟨[0x74, 0xFF, 0x2F, 0x2E]⟩ := .dotted _
  have hinside : Path.Respelling ⟨[0x74, 0xFF, 0x2F, 0x2E]⟩
      ⟨Utf8.octets "./d" ++ [0x2F, 0x74, 0xFF, 0x2F, 0x2E]⟩ := .inside _ (by decide)
  have hdoubled : Path.Respelling ⟨Utf8.octets "./d" ++ [0x2F, 0x74, 0xFF, 0x2F, 0x2E]⟩
      nestedStrayPaths.header := .doubled (Utf8.octets "./d") [0x74, 0xFF, 0x2F, 0x2E]
  have hspelled : Relation.EqvGen Path.Respelling strayPaths.header nestedStrayPaths.header :=
    .trans _ _ _ (.rel _ _ hdotted) (.trans _ _ _ (.rel _ _ hinside) (.rel _ _ hdoubled))
  have hsame : slashedPaths.same .standard = true := by decide
  obtain ⟨-, -, hothers, -, -⟩ := includeName_of_last_component strayPaths
  obtain ⟨-, -, -, hplaces, hstandard⟩ := includeName_of_last_component slashedPaths
  have hshown : strayPaths.includeName = "t\uFFFD" := by decide +kernel
  exact ⟨hspelled, (hothers _ hspelled).trans hshown, hsame, hplaces _ hsame, hstandard hsame⟩

end AdventureTables
