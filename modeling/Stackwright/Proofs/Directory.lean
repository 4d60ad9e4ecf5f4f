import Mathlib.Data.String.Basic
import Stackwright.File
import Stackwright.Proofs.Outcome

/-!
Directories. What is written under a path is read under it, and no other file is changed by that.
-/

namespace Stackwright.Directory

variable {directory after : Directory} {here place : List String} {path content : String}

def next? (here : List String) (part : String) : Option (List String) :=
  if maxPartLength < part.utf8ByteSize then none
  else if part = "" ∨ part = "." then some here
  else if part = ".." then if here = [] then none else some here.dropLast
  else some (here ++ [part])

/-- Following a path asks of the files only which places are directories. -/
theorem walk_cons_eq_ok {part : String} {rest : List String} :
    directory.walk here (part :: rest) = .ok place ↔ directory.holdsDirectory here = true ∧
      ∃ there, next? here part = some there ∧ directory.walk there rest = .ok place := by
  rw [walk, next?]
  by_cases isDirectory : directory.holdsDirectory here
  · rw [if_pos isDirectory]
    split
    · simp
    · split
      · simp [isDirectory]
      · split
        · split <;> simp [isDirectory]
        · simp [isDirectory]
  · rw [if_neg isDirectory]
    split <;> simp [isDirectory]

theorem walk_append_eq_ok {parts others : List String} :
    directory.walk here (parts ++ others) = .ok place ↔
      ∃ there, directory.walk here parts = .ok there ∧ directory.walk there others = .ok place := by
  induction parts generalizing here with
  | nil => simp [walk]
  | cons part rest ih =>
      simp only [List.cons_append, walk_cons_eq_ok, ih]
      constructor
      · rintro ⟨isDirectory, inside, leads, there, further, last⟩
        exact ⟨there, ⟨isDirectory, inside, leads, further⟩, last⟩
      · rintro ⟨there, ⟨isDirectory, inside, leads, further⟩, last⟩
        exact ⟨isDirectory, inside, leads, there, further, last⟩

theorem walk_mono {other : Directory} {parts : List String}
    (kept : ∀ here, directory.holdsDirectory here = true → other.holdsDirectory here = true)
    (leads : directory.walk here parts = .ok place) : other.walk here parts = .ok place := by
  induction parts generalizing here with
  | nil => exact leads
  | cons part rest ih =>
      obtain ⟨isDirectory, there, step, further⟩ := walk_cons_eq_ok.mp leads
      exact walk_cons_eq_ok.mpr ⟨kept here isDirectory, there, step, ih further⟩

def withFile (directory : Directory) (place : List String) (content : String) : Directory :=
  ⟨(place, content.toUTF8) :: directory.files.filter fun file => file.1 != place⟩

theorem holdsDirectory_withFile (here : List String)
    (isDirectory : directory.holdsDirectory here = true) :
    (directory.withFile place content).holdsDirectory here = true := by
  rw [holdsDirectory, Bool.or_eq_true, List.any_eq_true] at isDirectory ⊢
  rcases isDirectory with isRoot | ⟨file, member, above⟩
  · exact .inl isRoot
  · right
    by_cases same : file.1 = place
    · exact ⟨(place, content.toUTF8), List.mem_cons_self, same ▸ above⟩
    · refine ⟨file, List.mem_cons_of_mem _ (List.mem_filter.mpr ⟨member, ?_⟩), above⟩
      simpa using same

theorem lookup_withFile (other : List String) :
    (directory.withFile place content).files.lookup other =
      if other = place then some content.toUTF8 else directory.files.lookup other := by
  rw [withFile, List.lookup_cons]
  by_cases same : other = place
  · simp [same]
  · have different : (other == place) = false := by simpa using same
    rw [different, if_neg same]
    show (directory.files.filter fun file => file.1 != place).lookup other = _
    -- The files that are taken out are at `place`, so they are not what `other` finds.
    induction directory.files with
    | nil => rfl
    | cons file rest ih =>
        by_cases written : file.1 = place
        · have elsewhere : (other == file.1) = false := by simpa [written] using same
          rw [List.filter_cons_of_neg (by simpa using written), List.lookup_cons, elsewhere, ih]
        · rw [List.filter_cons_of_pos (by simpa using written), List.lookup_cons,
            List.lookup_cons, ih]

theorem write_eq_ok (wrote : directory.write path content = .ok after) :
    ∃ parts place, Directory.parts path = .ok parts ∧ directory.walk [] parts = .ok place ∧
      after = directory.withFile place content := by
  obtain ⟨parts, split, parted⟩ := bind_eq_ok.mp wrote
  obtain ⟨parent, leads, reached⟩ := bind_eq_ok.mp parted
  by_cases cut : (parts.reverse.dropWhile (· = "")).reverse.length < parts.length
  · simp only [if_pos cut] at reached
    cases reached
  · have whole : (parts.reverse.dropWhile (· = "")).reverse = parts := by
      have cutOff := List.dropWhile_suffix (l := parts.reverse) (· = "")
      rw [cutOff.eq_of_length_le (by simpa using cut), List.reverse_reverse]
    rw [if_neg cut, whole] at reached
    rw [whole] at leads
    obtain ⟨above, toParent, stays⟩ := walk_append_eq_ok.mp leads
    obtain ⟨-, there, remains, arrived⟩ := walk_cons_eq_ok.mp stays
    obtain rfl : above = there := by simpa [next?, maxPartLength] using remains
    obtain rfl : above = parent := by simpa [walk] using arrived
    obtain ⟨place, last, placed⟩ := bind_eq_ok.mp reached
    by_cases isDirectory : directory.holdsDirectory place = true
    · simp only [if_pos isDirectory] at placed
      cases placed
    · rw [if_neg isDirectory] at placed
      cases placed
      refine ⟨parts, place, split, ?_, rfl⟩
      rcases List.eq_nil_or_concat parts with rfl | ⟨before, name, rfl⟩
      · -- The directory itself is no file.
        obtain rfl : [] = above := by simpa [walk] using toParent
        obtain rfl : [] = place := by simpa [walk, maxPartLength, holdsDirectory] using last
        exact absurd rfl isDirectory
      · rw [List.concat_eq_append] at toParent last ⊢
        rw [List.dropLast_concat] at toParent
        rw [List.getLast?_concat, Option.getD_some] at last
        exact walk_append_eq_ok.mpr ⟨above, toParent, last⟩

/-- One file is the content under the path, and every other file is as it was. -/
structure Gains (directory : Directory) (path content : String) (after : Directory) : Prop where
  reads : after.read path = .ok content
  others : ∃ place, ∀ other, after.files.lookup other =
    if other = place then some content.toUTF8 else directory.files.lookup other

theorem gains_of_write (wrote : directory.write path content = .ok after) :
    directory.Gains path content after := by
  obtain ⟨parts, place, split, leads, rfl⟩ := write_eq_ok wrote
  refine ⟨?_, place, lookup_withFile⟩
  have found : (directory.withFile place content).walk [] parts = .ok place :=
    walk_mono (fun here => holdsDirectory_withFile here) leads
  simp only [read, split, found, ok_bind, lookup_withFile, if_true, textOfBytes_toUTF8]

/-- A text in which the separator is absent is its only part; `before` is what was passed. -/
theorem splitOnAux_of_absent (before after : List Char) (absent : '/' ∉ after) :
    String.splitOnAux (String.ofList (before ++ after)) "/" 0 ⟨String.utf8Len before⟩ 0 [] =
      [String.ofList (before ++ after)] := by
  induction after generalizing before with
  | nil =>
      rw [String.splitOnAux, if_pos ((String.atEnd_of_valid before []).mpr rfl)]
      have whole := String.extract_of_valid [] before []
      simpa using whole
  | cons c rest ih =>
      have inside : ¬String.Pos.Raw.atEnd (String.ofList (before ++ c :: rest))
          ⟨String.utf8Len before⟩ = true := by
        rw [String.atEnd_of_valid]
        exact List.cons_ne_nil _ _
      have different : c ≠ '/' := fun same => absent (same ▸ List.mem_cons_self)
      have slash : String.Pos.Raw.get "/" 0 = '/' := by decide +kernel
      have read : String.Pos.Raw.get (String.ofList (before ++ c :: rest))
          ⟨String.utf8Len before⟩ = c := String.get_of_valid before (c :: rest)
      have restarted : String.Pos.Raw.unoffsetBy ⟨String.utf8Len before⟩ 0 =
          ⟨String.utf8Len before⟩ := rfl
      have next : String.Pos.Raw.next (String.ofList (before ++ c :: rest))
          ⟨String.utf8Len before⟩ = ⟨String.utf8Len (before ++ [c])⟩ := by
        rw [String.next_of_valid]
        simp
      have later := ih (before ++ [c]) (fun member => absent (List.mem_cons_of_mem _ member))
      rw [List.append_assoc, List.singleton_append] at later
      rw [String.splitOnAux, if_neg inside, read, slash, if_neg (by simpa using different),
        restarted, next]
      exact later

theorem parts_of_name (name : '/' ∉ path.toList) : parts path = .ok [path] := by
  have whole : path.splitOn "/" = [path] := by
    rw [String.splitOn, if_neg (by decide)]
    simpa using splitOnAux_of_absent [] path.toList name
  have relative : path.startsWith "/" = false := by
    rw [String.startsWith_string_eq_false_iff]
    intro leads
    exact name (leads.subset (by decide +kernel))
  rw [parts, whole, relative]
  rfl

structure IsName (path : String) : Prop where
  whole : '/' ∉ path.toList
  leads : next? [] path = some [path]

theorem IsName.walk_eq (name : IsName path) : directory.walk [] [path] = .ok [path] :=
  walk_cons_eq_ok.mpr ⟨rfl, [path], name.leads, rfl⟩

theorem IsName.read_eq (name : IsName path) {bytes : ByteArray}
    (held : directory.files.lookup [path] = some bytes) :
    directory.read path = textOfBytes bytes := by
  simp only [read, parts_of_name name.whole, name.walk_eq, ok_bind, held]

theorem IsName.write_eq (name : IsName path) (free : directory.holdsDirectory [path] = false)
    (content : String) :
    directory.write path content = .ok (directory.withFile [path] content) := by
  have named : path ≠ "" := by
    rintro rfl
    cases name.leads
  have kept : (List.dropWhile (· = "") [path].reverse).reverse = [path] := by simp [named]
  have parent : directory.walk [] [""] = .ok [] :=
    walk_cons_eq_ok.mpr ⟨rfl, [], by decide +kernel, rfl⟩
  simp only [write, parts_of_name name.whole, ok_bind, kept, List.dropLast_singleton,
    List.nil_append, parent, lt_irrefl, if_false, List.getLast?_singleton, Option.getD_some,
    name.walk_eq, free]
  rfl

end Stackwright.Directory
