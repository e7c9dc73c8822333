import Provisioning.Files.Tree
import Provisioning.Proofs.Data.Except
import Provisioning.Proofs.Files.View

/-!
# Files in a tree

What the operations on a tree do to the entries of its directories. They change nothing but the
names that they are about, and so a file of a directory can be replaced by another one of it.

## Main definitions

* `FileTree.view`: the view of a tree of files
* `FileTree.Plain`, `FileTree.IsName`: a path has names and no steps to the parent, or is a name

## Main results

* `Node.exists_of_alter`: what is altered is what a directory has
* `FileTree.pathNames_joinPath`: the names on the path of an entry
* `FileTree.view_replaces`: a file can be replaced by one of another name in the same directory
-/

namespace Provisioning

/-! ## Entries of directories -/

namespace Node

variable {name other : String} {x y z : Node} {entries entries' : List (String × Node)}
  {names : List String} {f : List (String × Node) → Except FileError (List (String × Node))}

theorem child?_setEntry (name other : String) (x : Node) (entries : List (String × Node)) :
    child? other (setEntry name x entries) =
      if other = name then some x else child? other entries := by
  induction entries with
  | nil => simp [setEntry, child?, eq_comm]
  | cons e rest ih =>
    obtain ⟨n, y⟩ := e
    rw [setEntry]
    by_cases hn : n = name
    · subst hn
      by_cases ho : n = other
      · simp [child?, ho]
      · simp [child?, ho, Ne.symm ho]
    · by_cases ho : n = other
      · subst ho
        simp [child?, hn]
      · simp [child?, hn, ho, ih]

theorem child?_dropEntry (h : other ≠ name) (entries : List (String × Node)) :
    child? other (dropEntry name entries) = child? other entries := by
  induction entries with
  | nil => rfl
  | cons e rest ih =>
    obtain ⟨n, y⟩ := e
    by_cases hn : n = name
    · have hdrop : dropEntry name ((n, y) :: rest) = dropEntry name rest :=
        List.filter_cons_of_neg (by simp [hn])
      rw [hdrop, ih, child?, if_neg (hn ▸ h.symm)]
    · have hdrop : dropEntry name ((n, y) :: rest) = (n, y) :: dropEntry name rest :=
        List.filter_cons_of_pos (by simp [hn])
      rw [hdrop, child?, child?, ih]

theorem find_of_child? (h : child? name entries = some x) (path : List String) :
    (directory entries).find (name :: path) = x.find path := by
  rw [find, h]

theorem find_of_child?_eq_none (h : child? name entries = none) (path : List String) :
    (directory entries).find (name :: path) = .error .notFound := by
  rw [find, h]

theorem find_setEntry (name : String) (x : Node) (entries : List (String × Node))
    (path : List String) :
    (directory (setEntry name x entries)).find (name :: path) = x.find path :=
  find_of_child? (by rw [child?_setEntry, if_pos rfl]) path

/-- To make directories changes nothing in the last one of them. -/
theorem find_makeDirectories (h : x.makeDirectories names = .ok y) (last : String) :
    y.find (names ++ [last]) = x.find (names ++ [last]) := by
  induction names generalizing x y with
  | nil =>
    cases x with
    | file content => cases h
    | directory entries =>
      cases h
      rfl
  | cons name names ih =>
    cases x with
    | file content => cases h
    | directory entries =>
      obtain ⟨z, hz, rfl⟩ := map_eq_ok.1 h
      rw [List.cons_append, find_setEntry, ih hz]
      cases hchild : child? name entries with
      | some inner => rw [find_of_child? hchild, Option.getD_some]
      | none =>
        -- A directory that was not there is made without entries.
        rw [find_of_child?_eq_none hchild, Option.getD_none]
        cases names <;> rfl

/-- What is altered is what a directory has. -/
theorem exists_of_alter (h : x.alter f names = .ok y) :
    ∃ entries entries', f entries = .ok entries' ∧ ∀ last,
      x.find (names ++ [last]) = (directory entries).find [last] ∧
        y.find (names ++ [last]) = (directory entries').find [last] := by
  -- By induction on the way down: above the directory, one entry is set to what it was altered to.
  induction names generalizing x y with
  | nil =>
    cases x with
    | file content => cases h
    | directory entries =>
      obtain ⟨entries', hf, rfl⟩ := map_eq_ok.1 h
      exact ⟨entries, entries', hf, fun _ => ⟨rfl, rfl⟩⟩
  | cons name names ih =>
    cases x with
    | file content => cases h
    | directory entries =>
      rw [alter] at h
      cases hchild : child? name entries with
      | none =>
        rw [hchild] at h
        cases h
      | some inner =>
        rw [hchild] at h
        obtain ⟨z, hz, rfl⟩ := map_eq_ok.1 h
        obtain ⟨found, found', hf, hfind⟩ := ih hz
        refine ⟨found, found', hf, fun last => ?_⟩
        rw [List.cons_append, find_setEntry, find_of_child? hchild]
        exact hfind last

/-- Where nothing has changed under a name, the same is found under it. -/
theorem find_congr (h : child? name entries = child? name entries') (path : List String) :
    (directory entries).find (name :: path) = (directory entries').find (name :: path) := by
  rw [find, find, h]

/-- Names without steps to the parent are settled. -/
theorem settle_eq (top : Node) (isRoot : Bool) {path : List String} (h : ".." ∉ path)
    (passed : List String) : settle top isRoot passed path = .ok (passed.reverse ++ path) := by
  -- By induction on the names ahead; those that were passed are kept in reverse.
  induction path generalizing passed with
  | nil => rw [settle, List.append_nil]
  | cons name path ih =>
    obtain ⟨hname, hpath⟩ := not_or.1 (mt List.mem_cons.2 h)
    unfold settle
    rw [if_pos (Ne.symm hname), ih hpath, List.reverse_cons, List.append_assoc]
    rfl

end Node

/-! ## Paths -/

namespace FileTree

open Node

variable {tree tree' : FileTree} {path directory entry name first second : String}
  {names : List String} {content : ByteArray}

/-- The parts of a path between its slashes. -/
def parts (cs : List Char) : List (List Char) :=
  cs.foldr (fun c parts =>
    match parts with
    | [] => [[c]]
    | part :: more => if c = '/' then [] :: part :: more else (c :: part) :: more) [[]]

/-- The parts that are names. -/
def namesOf (parts : List (List Char)) : List String :=
  (parts.map String.ofList).filter fun name => name ≠ "" ∧ name ≠ "."

theorem pathNames_eq (path : String) : pathNames path = namesOf (parts path.toList) := rfl

theorem parts_cons {cs part : List Char} {more : List (List Char)} (h : parts cs = part :: more)
    (c : Char) :
    parts (c :: cs) = if c = '/' then [] :: part :: more else (c :: part) :: more := by
  change (match parts cs with
    | [] => [[c]]
    | part :: more => if c = '/' then [] :: part :: more else (c :: part) :: more) = _
  rw [h]

theorem exists_parts_eq_cons (cs : List Char) : ∃ part more, parts cs = part :: more := by
  induction cs with
  | nil => exact ⟨[], [], rfl⟩
  | cons c cs ih =>
    obtain ⟨part, more, h⟩ := ih
    rw [parts_cons h]
    split <;> exact ⟨_, _, rfl⟩

/-- A slash ends a part. -/
theorem parts_append_slash (cs cs' : List Char) :
    parts (cs ++ '/' :: cs') = parts cs ++ parts cs' := by
  induction cs with
  | nil =>
    obtain ⟨part, more, h⟩ := exists_parts_eq_cons cs'
    rw [List.nil_append, parts_cons h, if_pos rfl, h]
    rfl
  | cons c cs ih =>
    obtain ⟨part, more, h⟩ := exists_parts_eq_cons cs
    have happend : parts (cs ++ '/' :: cs') = part :: (more ++ parts cs') := by
      rw [ih, h, List.cons_append]
    rw [List.cons_append, parts_cons happend, parts_cons h]
    split <;> rfl

theorem namesOf_append (parts parts' : List (List Char)) :
    namesOf (parts ++ parts') = namesOf parts ++ namesOf parts' := by
  unfold namesOf
  rw [List.map_append, List.filter_append]

theorem pathNames_joinPath (hentry : isAbsolute entry = false) (hdirectory : directory ≠ "") :
    pathNames (joinPath directory entry) = pathNames directory ++ pathNames entry := by
  have hjoin : ¬ (directory = "" ∨ entry.toList.head? = some '/') :=
    not_or.2 ⟨hdirectory, of_decide_eq_false hentry⟩
  unfold joinPath
  rw [if_neg hjoin]
  simp only [pathNames_eq]
  split
  · next hslash =>
    -- The slash at the end of the directory is the one before the entry.
    obtain ⟨cs, hcs⟩ := List.getLast?_eq_some_iff.1 hslash
    have hempty : namesOf (parts directory.toList) = namesOf (parts cs) := by
      rw [hcs, parts_append_slash, namesOf_append]
      exact List.append_nil _
    rw [hempty, String.toList_append, hcs, List.append_assoc]
    exact (congrArg namesOf (parts_append_slash cs _)).trans (namesOf_append _ _)
  · rw [String.toList_append, String.toList_append, List.append_assoc]
    exact (congrArg namesOf (parts_append_slash _ _)).trans (namesOf_append _ _)

theorem exists_toList_joinPath (hentry : isAbsolute entry = false) (hdirectory : directory ≠ "") :
    ∃ slash, (slash = [] ∨ slash = ['/']) ∧
      (joinPath directory entry).toList = directory.toList ++ (slash ++ entry.toList) := by
  have hjoin : ¬ (directory = "" ∨ entry.toList.head? = some '/') :=
    not_or.2 ⟨hdirectory, of_decide_eq_false hentry⟩
  unfold joinPath
  rw [if_neg hjoin]
  split
  · exact ⟨[], .inl rfl, String.toList_append⟩
  · refine ⟨['/'], .inr rfl, ?_⟩
    rw [String.toList_append, String.toList_append, List.append_assoc]
    rfl

theorem isAbsolute_joinPath (hentry : isAbsolute entry = false) (hdirectory : directory ≠ "") :
    isAbsolute (joinPath directory entry) = isAbsolute directory := by
  obtain ⟨slash, -, h⟩ := exists_toList_joinPath hentry hdirectory
  have hne : directory.toList ≠ [] := by simpa using hdirectory
  obtain ⟨c, cs, hcs⟩ := List.exists_cons_of_ne_nil hne
  unfold isAbsolute
  rw [h, hcs]
  rfl

theorem endsInSlash_joinPath (hentry : isAbsolute entry = false) (hdirectory : directory ≠ "")
    (hne : entry ≠ "") : endsInSlash (joinPath directory entry) = endsInSlash entry := by
  obtain ⟨slash, -, h⟩ := exists_toList_joinPath hentry hdirectory
  have hlast : entry.toList ≠ [] := by simpa using hne
  unfold endsInSlash
  rw [h, ← List.append_assoc, List.getLast?_append, List.getLast?_eq_some_getLast hlast,
    Option.some_or]

/-- A path of names, with no steps to the parent among them. -/
structure Plain (path : String) (names : List String) : Prop where
  ne_empty : path ≠ ""
  noNul : path.toList.contains '\x00' = false
  names_eq : pathNames path = names
  noParent : ".." ∉ names

theorem Plain.names_eq_ok (h : Plain path names) (tree : FileTree) :
    tree.names path = .ok names := by
  unfold FileTree.names
  rw [h.noNul, if_neg Bool.false_ne_true, if_neg h.ne_empty, h.names_eq, settle_eq _ _ h.noParent]
  rfl

/-- A path that is the name of an entry. -/
structure IsName (name : String) : Prop where
  plain : Plain name [name]
  relative : isAbsolute name = false
  noSlash : endsInSlash name = false

/-- An entry of a plain directory has a plain path. -/
theorem Plain.join (h : Plain directory names) (hname : IsName name) :
    Plain (joinPath directory name) (names ++ [name]) where
  ne_empty heq := by
    obtain ⟨slash, -, hjoin⟩ := exists_toList_joinPath hname.relative h.ne_empty
    have hne : directory.toList ≠ [] := by simpa using h.ne_empty
    rw [heq] at hjoin
    exact List.append_ne_nil_of_left_ne_nil hne _ hjoin.symm
  noNul := by
    obtain ⟨slash, hslash, hjoin⟩ := exists_toList_joinPath hname.relative h.ne_empty
    have hfree : slash.contains '\x00' = false := by rcases hslash with rfl | rfl <;> rfl
    rw [hjoin, List.contains_append, List.contains_append, h.noNul, hname.plain.noNul, hfree]
    rfl
  names_eq := by rw [pathNames_joinPath hname.relative h.ne_empty, h.names_eq, hname.plain.names_eq]
  noParent hmem := by
    rcases List.mem_append.1 hmem with hmem | hmem
    · exact h.noParent hmem
    · exact hname.plain.noParent hmem

theorem start_congr {path' : String} (h : isAbsolute path' = isAbsolute path) (tree : FileTree) :
    tree.start path' = tree.start path := by
  unfold start
  rw [h]

theorem start_withStart {path' : String} (h : isAbsolute path' = isAbsolute path) (tree : FileTree)
    (x : Node) : (tree.withStart path x).start path' = x := by
  unfold start withStart
  rw [h]
  split <;> rfl

theorem isAbsolute_join (h : Plain directory names) (hname : IsName name) :
    isAbsolute (joinPath directory name) = isAbsolute directory :=
  isAbsolute_joinPath hname.relative h.ne_empty

/-- What the path of an entry leads to. -/
theorem find_join (h : Plain directory names) (hname : IsName name) (tree : FileTree) :
    tree.find (joinPath directory name) = (tree.start directory).find (names ++ [name]) := by
  have hslash : endsInSlash (joinPath directory name) = false :=
    (endsInSlash_joinPath hname.relative h.ne_empty hname.plain.ne_empty).trans hname.noSlash
  unfold FileTree.find
  rw [(h.join hname).names_eq_ok, start_congr (isAbsolute_join h hname), hslash]
  dsimp only
  rcases (tree.start directory).find (names ++ [name]) with e | ⟨content | entries⟩ <;> rfl

/-! ## Trees -/

/-- The view of a tree of files. -/
def view : FileView FileTree Node where
  entryAt? path tree := (tree.find path).toOption
  content
    | .file content => .ok content
    | .directory _ => .error .isDirectory
  isPresent_eq path tree := by
    change ((tree.find path).isOk, tree) = _
    cases tree.find path <;> rfl
  read_files path tree := by
    simp only [FileStore.read]
    rcases tree.find path with e | ⟨content | entries⟩ <;> rfl
  read_entry path tree x h := by
    simp only [FileStore.read, ok_of_toOption h]
    cases x <;> rfl

theorem find_of_makeDirectories (h : Plain directory names) (hname : IsName name)
    (hmade : tree.makeDirectories directory = .ok tree') :
    tree'.find (joinPath directory name) = tree.find (joinPath directory name) := by
  unfold FileTree.makeDirectories at hmade
  rw [if_neg h.ne_empty, h.names_eq_ok] at hmade
  obtain ⟨y, hy, rfl⟩ := map_eq_ok.1 hmade
  rw [find_join h hname, find_join h hname, start_withStart rfl, find_makeDirectories hy]

/-- What is altered beside an entry is what its directory has. -/
theorem exists_of_alterParent {f : String → List (String × Node) →
      Except FileError (List (String × Node))} (h : Plain directory names) (hname : IsName name)
    (halter : tree.alterParent (joinPath directory name) f = .ok tree') :
    ∃ entries entries', f name entries = .ok entries' ∧ ∀ last, IsName last →
      tree.find (joinPath directory last) = (Node.directory entries).find [last] ∧
        tree'.find (joinPath directory last) = (Node.directory entries').find [last] := by
  unfold alterParent at halter
  rw [(h.join hname).names_eq_ok, start_congr (isAbsolute_join h hname)] at halter
  simp only [List.getLast?_concat, List.dropLast_concat] at halter
  obtain ⟨y, hy, rfl⟩ := map_eq_ok.1 halter
  obtain ⟨entries, entries', hf, hfind⟩ := exists_of_alter hy
  refine ⟨entries, entries', hf, fun last hlast => ?_⟩
  rw [find_join h hlast, find_join h hlast, start_withStart (isAbsolute_join h hname).symm]
  exact hfind last

/-- A file that was put is found, and the other entries of its directory are as before. -/
theorem find_of_put (h : Plain directory names) (hname : IsName name)
    (hput : tree.put (joinPath directory name) content = .ok tree') :
    tree'.find (joinPath directory name) = .ok (.file content) ∧
      ∀ last, IsName last → last ≠ name →
        tree'.find (joinPath directory last) = tree.find (joinPath directory last) := by
  obtain ⟨entries, entries', hf, hfind⟩ := exists_of_alterParent h hname hput
  obtain rfl : setEntry name (.file content) entries = entries' := by
    split at hf
    · cases hf
    · exact Except.ok.inj hf
  refine ⟨?_, fun last hlast hne => ?_⟩
  · rw [(hfind name hname).2, find_setEntry]
    rfl
  · rw [(hfind last hlast).2, (hfind last hlast).1]
    exact find_congr (by rw [child?_setEntry, if_neg hne]) []

/-- A file that is moved is put at its new path, and then its old name is dropped. -/
theorem exists_of_move {source target : String} (h : tree.move source target = .ok tree') :
    ∃ content placed, tree.find source = .ok (.file content) ∧
      tree.put target content = .ok placed ∧
      (placed.alterParent source fun name entries => .ok (dropEntry name entries)) = .ok tree' := by
  unfold move at h
  split at h
  · cases h
  · cases h
  · next content hfind =>
    split at h
    · cases h
    · next placed hput => exact ⟨content, placed, hfind, hput, h⟩

theorem eq_of_commit_ok {r : Except FileError FileTree} (h : commit r tree = (.ok (), tree')) :
    r = .ok tree' := by
  cases r with
  | error e => cases h
  | ok changed =>
    cases h
    rfl

theorem eq_of_commit_error {r : Except FileError FileTree} {e : FileError}
    (h : commit r tree = (.error e, tree')) : tree' = tree := by
  cases r with
  | error e =>
    cases h
    rfl
  | ok changed => cases h

/-- **In a tree a file can be replaced** by one of another name in the same directory. -/
theorem view_replaces (hdirectory : Plain directory names) (hfirst : IsName first)
    (hsecond : IsName second) (hne : second ≠ first) :
    view.Replaces directory (joinPath directory first) (joinPath directory second) where
  makeDirectories tree _ := by
    change view.entryAt? _ (commit (tree.makeDirectories directory) tree).2 = _
    cases h : tree.makeDirectories directory with
    | error e => rfl
    | ok tree' => exact congrArg Except.toOption (find_of_makeDirectories hdirectory hsecond h)
  write bytes tree := by
    change view.entryAt? _ (commit (tree.put (joinPath directory first) bytes) tree).2 = _
    cases h : tree.put (joinPath directory first) bytes with
    | error e => rfl
    | ok tree' =>
      exact congrArg Except.toOption ((find_of_put hdirectory hfirst h).2 second hsecond hne)
  written bytes tree tree' h := by
    change (tree'.find (joinPath directory first)).toOption.map view.content = _
    rw [(find_of_put hdirectory hfirst (eq_of_commit_ok h)).1]
    rfl
  renamed tree tree' h := by
    obtain ⟨content, placed, hsource, hput, hdrop⟩ := exists_of_move (eq_of_commit_ok h)
    obtain ⟨_, _, hentries, hfind⟩ := exists_of_alterParent hdirectory hfirst hdrop
    obtain rfl := Except.ok.inj hentries
    obtain ⟨hplaced, hdropped⟩ := hfind second hsecond
    change (tree'.find (joinPath directory second)).toOption =
      (tree.find (joinPath directory first)).toOption
    -- The name that is dropped is not the one that the file was put under.
    rw [hdropped, find_congr (child?_dropEntry hne _), ← hplaced,
      (find_of_put hdirectory hsecond hput).1, hsource]
  notRenamed e tree tree' h := by
    obtain rfl := eq_of_commit_error h
    rfl

end FileTree

end Provisioning
