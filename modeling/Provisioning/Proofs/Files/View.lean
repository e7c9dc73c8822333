import Provisioning.Files.Store

/-!
# Views of stores of files

A store of files is known by its operations only. A view tells what its paths lead to, and so what
an operation does to a file.

## Main definitions

* `FileView σ ν`: what the paths of a store lead to, and what is read of it
* `FileView.Replaces`: a file can be replaced by one that was written beside it
-/

namespace Provisioning

/-- What the paths of a store lead to: entries, of which each has what is read of it. -/
structure FileView (σ ν : Type) [FileStore (StateM σ)] where
  /-- What a path leads to, if it leads anywhere. -/
  entryAt? : String → σ → Option ν
  /-- What is read of an entry. -/
  content : ν → Except FileError ByteArray
  /-- A path is present if it leads to an entry. To look for one changes nothing. -/
  isPresent_eq : ∀ path files,
    FileStore.isPresent (m := StateM σ) path files = ((entryAt? path files).isSome, files)
  /-- To read changes nothing. -/
  read_files : ∀ path files, (FileStore.read (m := StateM σ) path files).2 = files
  /-- An entry is read as its content. -/
  read_entry : ∀ path files x, entryAt? path files = some x →
    (FileStore.read (m := StateM σ) path files).1 = content x

/-- The file at a path can be replaced: the directory can be made and another file be written
without touching it, and the other file takes its place or leaves it as it is. -/
structure FileView.Replaces {σ ν : Type} [FileStore (StateM σ)] (view : FileView σ ν)
    (directory temporary target : String) : Prop where
  /-- To make the missing directory does not touch the target. -/
  makeDirectories : ∀ files, view.entryAt? directory files = none →
    view.entryAt? target (FileStore.makeDirectories (m := StateM σ) directory files).2 =
      view.entryAt? target files
  /-- To write the other file does not touch the target, even if it fails. -/
  write : ∀ bytes files,
    view.entryAt? target (FileStore.write (m := StateM σ) temporary bytes files).2 =
      view.entryAt? target files
  /-- A file that was written has the bytes. -/
  written : ∀ bytes files written,
    FileStore.write (m := StateM σ) temporary bytes files = (.ok (), written) →
      (view.entryAt? temporary written).map view.content = some (.ok bytes)
  /-- The target becomes the file that is moved to it. -/
  renamed : ∀ files renamed,
    FileStore.rename (m := StateM σ) temporary target files = (.ok (), renamed) →
      view.entryAt? target renamed = view.entryAt? temporary files
  /-- If nothing is moved to it, the target is not touched. -/
  notRenamed : ∀ e files after,
    FileStore.rename (m := StateM σ) temporary target files = (.error e, after) →
      view.entryAt? target after = view.entryAt? target files

end Provisioning
