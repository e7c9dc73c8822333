import Provisioning.Proofs.Files.Tree
import Provisioning.Proofs.Settings.Saved
import Provisioning.Settings.Store

/-!
# Settings in a store of files

## Main definitions

* `SettingsFile.Replaceable`: the file of the settings of a directory can be replaced
* `SettingsFile.Replaced`: all steps of replacing it succeed

## Main results

* `SettingsFile.load_cases`: to load settings changes nothing
* `SettingsFile.save_cases`: settings that are saved replace the stored ones, or do not touch them
-/

namespace Provisioning.SettingsFile

/-! ## Steps -/

section Steps

variable {σ α β : Type}

theorem bind_apply (x : StateM σ α) (g : α → StateM σ β) (files : σ) :
    (x >>= g) files = g (x files).1 (x files).2 := rfl

theorem pure_apply (a : α) (files : σ) : (pure a : StateM σ α) files = (a, files) := rfl

end Steps

variable {σ ν : Type} [FileStore (StateM σ)] {view : FileView σ ν} {directory text : String}
  {before after : σ} {f : SettingsFile} {s : Settings}

/-! ## Loading -/

theorem readText_files (view : FileView σ ν) (path : String) (files : σ) :
    (readText (m := StateM σ) path files).2 = files := by
  unfold readText
  rw [bind_apply, view.read_files]
  cases (FileStore.read (m := StateM σ) path files).1 with
  | error e => rfl
  | ok bytes =>
    dsimp only
    cases Text.ofUtf8? bytes <;> rfl

/-- To load settings changes nothing, and they are loaded with the directory they are kept in. -/
theorem load_cases (view : FileView σ ν) (directory : String) (files : σ) :
    (∃ e, load (m := StateM σ) directory files = (.error e, files)) ∨
      ∃ s, load (m := StateM σ) directory files = (.ok ⟨directory, s⟩, files) := by
  unfold load
  rw [bind_apply, view.isPresent_eq]
  cases (view.entryAt? (pathIn directory) files).isSome with
  | false => exact .inr ⟨{}, rfl⟩
  | true =>
    rw [if_pos rfl, bind_apply, readText_files view]
    cases (readText (m := StateM σ) (pathIn directory) files).1 with
    | error e => exact .inl ⟨_, rfl⟩
    | ok text =>
      dsimp only
      cases Settings.ofText? text with
      | none => exact .inl ⟨_, rfl⟩
      | some s => exact .inr ⟨s, rfl⟩

theorem ofUtf8?_toUTF8 (text : String) : Text.ofUtf8? text.toUTF8 = some text := by
  have hvalid : text.toUTF8.IsValidUTF8 := text.isValidUTF8
  unfold Text.ofUtf8? String.fromUTF8?
  rw [dif_pos hvalid]
  rfl

/-- The settings of a text are loaded from a file that holds it. -/
theorem load_of_content (view : FileView σ ν) {files : σ}
    (h : (view.entryAt? (pathIn directory) files).map view.content = some (.ok text.toUTF8))
    (hs : Settings.ofText? text = some s) :
    load (m := StateM σ) directory files = (.ok ⟨directory, s⟩, files) := by
  obtain ⟨x, hx, hcontent⟩ := Option.map_eq_some_iff.1 h
  have hread : FileStore.read (m := StateM σ) (pathIn directory) files = (.ok text.toUTF8, files) :=
    Prod.ext ((view.read_entry _ _ _ hx).trans hcontent) (view.read_files _ files)
  have htext : readText (m := StateM σ) (pathIn directory) files = (.ok text, files) := by
    unfold readText
    simp only [bind_apply, hread, ofUtf8?_toUTF8, pure_apply]
  unfold load
  simp only [bind_apply, view.isPresent_eq, hx, Option.isSome_some, if_true, htext, hs, pure_apply]

/-! ## Saving -/

/-- The path of the file that settings are written to before they take the place of others. -/
def temporaryIn (directory : String) : String := joinPath directory "config.tmp"

/-- Makes a directory if it is missing. -/
def prepare (directory : String) : StateM σ (Except FileError Unit) := do
  if ← FileStore.isPresent directory then return .ok () else FileStore.makeDirectories directory

/-- All steps of replacing the settings of a directory succeed: it is there or is made, the bytes
are written beside them, and take their place. -/
def Replaced (directory : String) (bytes : ByteArray) (before after : σ) : Prop :=
  ∃ prepared written, prepare directory before = (.ok (), prepared) ∧
    FileStore.write (m := StateM σ) (temporaryIn directory) bytes prepared = (.ok (), written) ∧
    FileStore.rename (m := StateM σ) (temporaryIn directory) (pathIn directory) written =
      (.ok (), after)

theorem Replaced.unique {bytes : ByteArray} {after' : σ} (h : Replaced directory bytes before after)
    (h' : Replaced directory bytes before after') : after = after' := by
  obtain ⟨prepared, written, hprepare, hwrite, hrename⟩ := h
  obtain ⟨_, _, hprepare', hwrite', hrename'⟩ := h'
  cases hprepare.symm.trans hprepare'
  cases hwrite.symm.trans hwrite'
  cases hrename.symm.trans hrename'
  rfl

/-- Settings that do not fit a document are not saved. -/
theorem save_of_toText?_eq_none (h : f.settings.toText? = none) (files : σ) :
    ∃ e, f.save (m := StateM σ) files = (.error e, files) := by
  unfold save
  simp only [h]
  exact ⟨_, rfl⟩

/-- The file of settings can be replaced. -/
abbrev Replaceable (view : FileView σ ν) (directory : String) : Prop :=
  view.Replaces directory (temporaryIn directory) (pathIn directory)

/-- So it can in any tree, if there are no steps to the parent on the way to it. -/
theorem replaceable_view {names : List String} (h : FileTree.Plain directory names) :
    Replaceable FileTree.view directory :=
  FileTree.view_replaces h
    ⟨⟨by decide, by decide, by decide, by decide⟩, by decide, by decide⟩
    ⟨⟨by decide, by decide, by decide, by decide⟩, by decide, by decide⟩ (by decide)

theorem entryAt?_prepare (h : Replaceable view directory) (files : σ) :
    view.entryAt? (pathIn directory) (prepare directory files).2 =
      view.entryAt? (pathIn directory) files := by
  unfold prepare
  rw [bind_apply, view.isPresent_eq]
  cases hpresent : view.entryAt? directory files with
  | some x => rfl
  | none => exact h.makeDirectories files hpresent

/-- The steps of saving once the text of the settings is known. -/
theorem save_eq_bind (view : FileView σ ν) (htext : f.settings.toText? = some text) :
    f.save (m := StateM σ) = (do
      match ← prepare f.directory with
      | .error e => return .error (.settings (.directoryFailed e.message))
      | .ok _ =>
        match ← FileStore.write (temporaryIn f.directory) text.toUTF8 with
        | .error e => return .error (.file e)
        | .ok _ =>
          match ← FileStore.rename (temporaryIn f.directory) f.path with
          | .error e => return .error (.file e)
          | .ok _ => return .ok ()) := by
  funext files
  unfold save prepare
  simp only [htext, bind_apply, view.isPresent_eq]
  cases (view.entryAt? f.directory files).isSome <;> rfl

/-- So the first step that fails is the last one. -/
theorem save_eq (view : FileView σ ν) (htext : f.settings.toText? = some text) (files : σ) :
    f.save (m := StateM σ) files =
      match prepare f.directory files with
      | (.error e, prepared) => (.error (.settings (.directoryFailed e.message)), prepared)
      | (.ok _, prepared) =>
        match FileStore.write (m := StateM σ) (temporaryIn f.directory) text.toUTF8 prepared with
        | (.error e, written) => (.error (.file e), written)
        | (.ok _, written) =>
          match FileStore.rename (m := StateM σ) (temporaryIn f.directory) f.path written with
          | (.error e, after) => (.error (.file e), after)
          | (.ok _, after) => (.ok (), after) := by
  rw [save_eq_bind view htext, bind_apply]
  rcases prepare f.directory files with ⟨- | -, prepared⟩
  · rfl
  · dsimp only
    rw [bind_apply]
    rcases FileStore.write (m := StateM σ) (temporaryIn f.directory) text.toUTF8 prepared with
      ⟨- | -, written⟩
    · rfl
    · dsimp only
      rw [bind_apply]
      rcases FileStore.rename (m := StateM σ) (temporaryIn f.directory) f.path written with
        ⟨- | -, after⟩ <;> rfl

/-- Settings are saved if all steps of replacing them succeed. -/
theorem save_of_replaced (view : FileView σ ν) (htext : f.settings.toText? = some text)
    (h : Replaced f.directory text.toUTF8 before after) :
    f.save (m := StateM σ) before = (.ok (), after) := by
  obtain ⟨prepared, written, hprepare, hwrite, hrename⟩ := h
  have hrename' : FileStore.rename (m := StateM σ) (temporaryIn f.directory) f.path written =
      (.ok (), after) := hrename
  rw [save_eq view htext]
  simp only [hprepare, hwrite, hrename']

/-- **Settings that are saved replace the stored ones, or these are not touched**, whichever of the
steps fails. -/
theorem save_cases (h : Replaceable view f.directory) (htext : f.settings.toText? = some text)
    (before : σ) :
    (∃ after, Replaced f.directory text.toUTF8 before after ∧
        f.save (m := StateM σ) before = (.ok (), after)) ∨
      ∃ e after, f.save (m := StateM σ) before = (.error e, after) ∧
        view.entryAt? f.path after = view.entryAt? f.path before := by
  -- The steps in turn: each either fails, or leaves the settings as they were for the next one.
  have hsave := save_eq view htext before
  have hprepared := entryAt?_prepare h before
  rcases hprepare : prepare f.directory before with ⟨e | _, prepared⟩
  · rw [hprepare] at hsave hprepared
    exact .inr ⟨_, _, hsave, hprepared⟩
  rw [hprepare] at hsave hprepared
  have hwritten := (h.write text.toUTF8 prepared).trans hprepared
  rcases hwrite :
      FileStore.write (m := StateM σ) (temporaryIn f.directory) text.toUTF8 prepared with
    ⟨e | _, written⟩
  · simp only [hwrite] at hsave hwritten
    exact .inr ⟨_, _, hsave, hwritten⟩
  simp only [hwrite] at hsave hwritten
  rcases hrename : FileStore.rename (m := StateM σ) (temporaryIn f.directory) f.path written with
    ⟨e | _, after⟩
  · simp only [hrename] at hsave
    exact .inr ⟨_, _, hsave, (h.notRenamed e written after hrename).trans hwritten⟩
  · simp only [hrename] at hsave
    exact .inl ⟨after, ⟨prepared, written, hprepare, hwrite, hrename⟩, hsave⟩

/-- Settings that were saved are loaded, up to NaNs. -/
theorem Replaced.load (h : Replaceable view directory) (htext : s.toText? = some text)
    (hreplaced : Replaced directory text.toUTF8 before after) :
    SettingsFile.load (m := StateM σ) directory after = (.ok ⟨directory, s.canonical⟩, after) := by
  obtain ⟨prepared, written, -, hwrite, hrename⟩ := hreplaced
  refine load_of_content view ?_ (Settings.ofText?_eq_canonical htext)
  rw [h.renamed written after hrename]
  exact h.written text.toUTF8 prepared written hwrite

end Provisioning.SettingsFile
