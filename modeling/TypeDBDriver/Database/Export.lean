import TypeDBDriver.Database.Migration
import TypeDBDriver.Lib.Files
import TypeDBDriver.Server.Outside

/-!
# Exporting a database to files

The state outside the manager holds the files. `attempts` records what each run of the export task
received; the rest of the model does not look at it.

* `exportLoop`, `exportTask`, `exportToFile`: the writer loop, the task that the failover loop may
  run several times on the same two files, and the export.
* `Between`: what the files hold between two attempts.
* **`exportToFile_allOrNothing_iff`**: an export is all or nothing exactly when no attempt before a
  successful one wrote more to either file.
-/

namespace TypeDBDriver.Migration

open Files

inductive DatabaseExportAnswer (M : Type)
  | schema (schema : String)
  | items (items : List M)
  | done

/-- What one run of the export task received. -/
structure Attempt (M : Type) where
  schema : List String
  items : List M
  done : Bool
  deriving DecidableEq

structure ExportState (ν κ M : Type) where
  network : ν
  files : FileSystem κ
  /-- ghost: the runs of the export task, latest last -/
  attempts : List (Attempt M)

def asBytes (s : String) : List UInt8 := s.toUTF8.data.toList

namespace Attempt

variable {M : Type} [Message M]

/-- The schema's bytes. -/
def schemaBytes (a : Attempt M) : List UInt8 := (a.schema.map asBytes).flatten

/-- The items' length-delimited encodings. -/
def dataBytes (a : Attempt M) : List UInt8 := encodeAll a.items

end Attempt

variable {ν κ M π : Type} [DecidableEq κ] [Message M]

/-- A network that knows nothing of the files. -/
def exportNetwork (net : Network ν) : Network (ExportState ν κ M) where
  openConnection a s :=
    let (res, network) := net.openConnection a s.network
    (res, { s with network })
  serversAll c s :=
    let (res, network) := net.serversAll c s.network
    (res, { s with network })
  hashOrder s := net.hashOrder s.network

/-- Paths: the file a path leads to, and its text. -/
structure Paths (π κ : Type) where
  file : π → κ
  toStr : π → String

def tryCreateExportFile (paths : Paths π κ) (path : π) (fs : FileSystem κ) :
    Result (FileSystem κ) :=
  match createNew (paths.file path) fs with
  | some fs => .ok fs
  | none => .error (.migration (.cannotCreateExportFile (paths.toStr path)
      "File exists (os error 17)"))

def tryOpenExistingExportFile (paths : Paths π κ) (path : π) (fs : FileSystem κ) :
    Result (Handle κ) :=
  match openExisting (paths.file path) fs with
  | some handle => .ok handle
  | none => .error (.migration (.cannotCreateExportFile (paths.toStr path)
      "No such file or directory (os error 2)"))

/-- Write the items, each after its length. -/
def writeItems : List M → BufWriter κ → FileSystem κ → BufWriter κ × FileSystem κ
  | [], dataWriter, fs => (dataWriter, fs)
  | item :: items, dataWriter, fs =>
    let res := dataWriter.writeAll (encodeLengthDelimited item) fs
    writeItems items res.1 res.2

/-- The writer loop over what the export stream yields until it ends. However it is left, the data
writer is flushed: at the end of the stream, or when it is dropped. -/
def exportLoop : List (Result (DatabaseExportAnswer M)) → Handle κ → BufWriter κ → Attempt M →
    FileSystem κ → Result Unit × Attempt M × FileSystem κ
  | [], _, dataWriter, received, fs =>
    (.error (.connection .databaseExportStreamNoResponse), received, (dataWriter.flush fs).2)
  | .error e :: _, _, dataWriter, received, fs => (.error e, received, (dataWriter.flush fs).2)
  | .ok .done :: _, _, dataWriter, received, fs =>
    (.ok (), { received with done := true }, (dataWriter.flush fs).2)
  | .ok (.schema schema) :: answers, schemaFile, dataWriter, received, fs =>
    let res := schemaFile.writeAll (asBytes schema) fs
    exportLoop answers res.1 dataWriter { received with schema := received.schema ++ [schema] }
      res.2
  | .ok (.items items) :: answers, schemaFile, dataWriter, received, fs =>
    let res := writeItems items dataWriter fs
    exportLoop answers schemaFile res.1 { received with items := received.items ++ items } res.2

/-- The export request: what the stream yields, if it is opened. -/
abbrev DatabaseExport (ν M : Type) : Type :=
  ServerConnection → ν → Result (List (Result (DatabaseExportAnswer M))) × ν

/-- The task that an export executes. -/
def exportTask (paths : Paths π κ) (databaseExport : DatabaseExport ν M)
    (schemaFilePath dataFilePath : π) : Task (ExportState ν κ M) Unit := fun connection s =>
  let failed : Attempt M := ⟨[], [], false⟩
  match tryOpenExistingExportFile paths schemaFilePath s.files,
    tryOpenExistingExportFile paths dataFilePath s.files with
  | .error e, _ | _, .error e => (.error e, { s with attempts := s.attempts ++ [failed] })
  | .ok schemaFile, .ok dataFile =>
    match databaseExport connection s.network with
    | (.error e, network) =>
      (.error e, { s with network, attempts := s.attempts ++ [failed] })
    | (.ok answers, network) =>
      let (res, attempt, files) :=
        exportLoop answers schemaFile (BufWriter.new dataFile) failed s.files
      (res, { network, files, attempts := s.attempts ++ [attempt] })

/-- Replace the files of a world. -/
def withFiles (files : FileSystem κ) (w : World (ExportState ν κ M)) :
    World (ExportState ν κ M) :=
  { w with outside := { w.outside with state := { w.outside.state with files } } }

def exportToFile [DecidableEq π] (net : Network ν) (paths : Paths π κ)
    (databaseExport : DatabaseExport ν M) (schemaFilePath dataFilePath : π)
    (w : World (ExportState ν κ M)) : Result Unit × World (ExportState ν κ M) :=
  if schemaFilePath = dataFilePath then (.error (.migration .cannotExportToTheSameFile), w)
  else
    match tryCreateExportFile paths schemaFilePath w.outside.state.files with
    | .error err => (.error err, w)
    | .ok files =>
      match tryCreateExportFile paths dataFilePath files with
      | .error err => (.error err, withFiles (removeFile (paths.file schemaFilePath) files) w)
      | .ok files =>
        match (withFiles files w).execute (exportNetwork net) .auto
          (exportTask paths databaseExport schemaFilePath dataFilePath).lift with
        | (.ok (), w) => (.ok (), w)
        | (.error err, w) =>
          (.error err, withFiles (removeFile (paths.file dataFilePath)
            (removeFile (paths.file schemaFilePath) w.outside.state.files)) w)

/-! ## One attempt -/

theorem encodeAll_append (ms ns : List M) :
    encodeAll (ms ++ ns) = encodeAll ms ++ encodeAll ns := by
  rw [encodeAll, List.map_append, List.flatten_append]
  rfl

theorem writeItems_wrote (items : List M) :
    ∀ {dataWriter : BufWriter κ} {fs : FileSystem κ} {written old : List UInt8},
      dataWriter.Wrote fs written old →
      (writeItems items dataWriter fs).1.Wrote (writeItems items dataWriter fs).2
        (written ++ encodeAll items) old := by
  induction items with
  | nil =>
    intro dataWriter fs written old h
    simpa [writeItems, encodeAll] using h
  | cons item items ih =>
    intro dataWriter fs written old h
    have := ih (h.writeAll (encodeLengthDelimited item))
    rw [List.append_assoc] at this
    exact this

theorem writeItems_frame (items : List M) :
    ∀ (dataWriter : BufWriter κ) (fs : FileSystem κ),
      (writeItems items dataWriter fs).1.inner.file = dataWriter.inner.file ∧
        ∀ k ≠ dataWriter.inner.file, (writeItems items dataWriter fs).2 k = fs k := by
  induction items with
  | nil => exact fun dataWriter fs => ⟨rfl, fun k _ => rfl⟩
  | cons item items ih =>
    intro dataWriter fs
    obtain ⟨hfile, hframe⟩ := dataWriter.writeAll_frame (encodeLengthDelimited item) fs
    obtain ⟨hfile', hframe'⟩ := ih (dataWriter.writeAll (encodeLengthDelimited item) fs).1
      (dataWriter.writeAll (encodeLengthDelimited item) fs).2
    refine ⟨hfile'.trans hfile, fun k hk => (hframe' k ?_).trans (hframe k hk)⟩
    rw [hfile]
    exact hk

/-- What an attempt leaves in the two files: what it received, over what they held. -/
structure Attempt.Left (a : Attempt M) (schemaFile dataFile : κ) (oldSchema oldData : List UInt8)
    (fs : FileSystem κ) : Prop where
  schema : fs schemaFile = some (overlay a.schemaBytes oldSchema)
  data : fs dataFile = some (overlay a.dataBytes oldData)

theorem Attempt.left_of_flush {received : Attempt M} {schemaFile : Handle κ}
    {dataWriter : BufWriter κ} {fs : FileSystem κ} {oldSchema oldData : List UInt8}
    (hne : schemaFile.file ≠ dataWriter.inner.file)
    (hs : schemaFile.Wrote fs received.schemaBytes oldSchema)
    (hd : dataWriter.Wrote fs received.dataBytes oldData) :
    received.Left schemaFile.file dataWriter.inner.file oldSchema oldData
      (dataWriter.flush fs).2 where
  schema := (dataWriter.flush_of_ne fs hne).trans hs.content
  data := hd.flush.1.content

/-- **One attempt**: by induction on the answers, with what was received so far. -/
theorem exportLoop_left {oldSchema oldData : List UInt8} :
    ∀ (answers : List (Result (DatabaseExportAnswer M))) (received : Attempt M)
      {schemaFile : Handle κ} {dataWriter : BufWriter κ} {fs : FileSystem κ},
      schemaFile.file ≠ dataWriter.inner.file → received.done = false →
      schemaFile.Wrote fs received.schemaBytes oldSchema →
      dataWriter.Wrote fs received.dataBytes oldData →
      (exportLoop answers schemaFile dataWriter received fs).2.1.Left schemaFile.file
        dataWriter.inner.file oldSchema oldData
        (exportLoop answers schemaFile dataWriter received fs).2.2 ∧
      ((exportLoop answers schemaFile dataWriter received fs).2.1.done = true ↔
        (exportLoop answers schemaFile dataWriter received fs).1 = .ok ())
  | [], received, schemaFile, dataWriter, fs, hne, hdone, hs, hd =>
    ⟨Attempt.left_of_flush hne hs hd, by simp [exportLoop, hdone]⟩
  | .error e :: answers, received, schemaFile, dataWriter, fs, hne, hdone, hs, hd =>
    ⟨Attempt.left_of_flush hne hs hd, by simp [exportLoop, hdone]⟩
  | .ok .done :: answers, received, schemaFile, dataWriter, fs, hne, hdone, hs, hd => by
    refine ⟨?_, by simp [exportLoop]⟩
    obtain ⟨hschema, hdata⟩ := Attempt.left_of_flush hne hs hd
    exact ⟨hschema, hdata⟩
  | .ok (.schema schema) :: answers, received, schemaFile, dataWriter, fs, hne, hdone, hs, hd => by
    have hs' := hs.writeAll (asBytes schema)
    have hbytes : received.schemaBytes ++ asBytes schema =
        { received with schema := received.schema ++ [schema] }.schemaBytes := by
      simp [Attempt.schemaBytes]
    rw [hbytes] at hs'
    have hd' : dataWriter.Wrote (schemaFile.writeAll (asBytes schema) fs).2
        { received with schema := received.schema ++ [schema] }.dataBytes oldData := by
      obtain ⟨flushed, hbuffer, hposition, hcontent⟩ := hd
      refine ⟨flushed, hbuffer, hposition, ?_⟩
      exact (schemaFile.writeAll_of_ne (asBytes schema) fs hne.symm).trans hcontent
    exact exportLoop_left answers { received with schema := received.schema ++ [schema] } hne hdone
      hs' hd'
  | .ok (.items items) :: answers, received, schemaFile, dataWriter, fs, hne, hdone, hs, hd => by
    obtain ⟨hfile, hframe⟩ := writeItems_frame items dataWriter fs
    have hd' := writeItems_wrote items hd
    have hbytes : received.dataBytes ++ encodeAll items =
        { received with items := received.items ++ items }.dataBytes :=
      (encodeAll_append received.items items).symm
    rw [hbytes] at hd'
    have hs' : schemaFile.Wrote (writeItems items dataWriter fs).2
        { received with items := received.items ++ items }.schemaBytes oldSchema :=
      ⟨hs.position, (hframe schemaFile.file hne).trans hs.content⟩
    have hrec := exportLoop_left answers { received with items := received.items ++ items }
      (hfile.symm ▸ hne) hdone hs' hd'
    rw [hfile] at hrec
    exact hrec

/-! ## All attempts -/

/-- What the files hold after some attempts, each of which wrote from the start of them. -/
structure Written (schemaFile dataFile : κ) (s : ExportState ν κ M) : Prop where
  schema : s.files schemaFile = some (contentAfter (s.attempts.map Attempt.schemaBytes))
  data : s.files dataFile = some (contentAfter (s.attempts.map Attempt.dataBytes))

/-- Between two attempts, the last of which failed. -/
structure Between (schemaFile dataFile : κ) (s : ExportState ν κ M) : Prop extends
    Written schemaFile dataFile s where
  failed : ∀ a ∈ s.attempts.getLast?, a.done = false

/-- After an attempt that received the end of the export. -/
structure Exported (schemaFile dataFile : κ) (s : ExportState ν κ M) : Prop extends
    Written schemaFile dataFile s where
  done : ∃ a ∈ s.attempts.getLast?, a.done = true

omit [DecidableEq κ] in
theorem Written.append {schemaFile dataFile : κ} {s : ExportState ν κ M} {a : Attempt M}
    {files : FileSystem κ} (network : ν)
    (ha : a.Left schemaFile dataFile (contentAfter (s.attempts.map Attempt.schemaBytes))
      (contentAfter (s.attempts.map Attempt.dataBytes)) files) :
    Written schemaFile dataFile
      (⟨network, files, s.attempts ++ [a]⟩ : ExportState ν κ M) where
  schema := by
    rw [List.map_append, List.map_singleton, contentAfter_concat]
    exact ha.schema
  data := by
    rw [List.map_append, List.map_singleton, contentAfter_concat]
    exact ha.data

omit [DecidableEq κ] in
theorem exportNetwork_keeps (net : Network ν) (schemaFile dataFile : κ) :
    (exportNetwork net : Network (ExportState ν κ M)).Keeps (Between schemaFile dataFile) where
  openConnection _ _ h := ⟨⟨h.schema, h.data⟩, h.failed⟩
  serversAll _ _ h := ⟨⟨h.schema, h.data⟩, h.failed⟩

/-- **The export task** leaves the files as the attempts so far say. -/
theorem exportTask_meets (paths : Paths π κ) (databaseExport : DatabaseExport ν M)
    {schemaFilePath dataFilePath : π} (hne : paths.file schemaFilePath ≠ paths.file dataFilePath) :
    (exportTask paths databaseExport schemaFilePath dataFilePath).Meets
      (Between (paths.file schemaFilePath) (paths.file dataFilePath))
      fun _ => Exported (paths.file schemaFilePath) (paths.file dataFilePath) := by
  intro c s hs
  have hfailed : (⟨[], [], false⟩ : Attempt M).Left (paths.file schemaFilePath)
      (paths.file dataFilePath) (contentAfter (s.attempts.map Attempt.schemaBytes))
      (contentAfter (s.attempts.map Attempt.dataBytes)) s.files := ⟨hs.schema, hs.data⟩
  unfold exportTask tryOpenExistingExportFile openExisting
  rw [hs.schema, hs.data]
  dsimp only [Option.map_some]
  rcases databaseExport c s.network with ⟨e | answers, network⟩
  · exact ⟨Written.append network hfailed, by simp⟩
  · have hschema : (⟨paths.file schemaFilePath, 0⟩ : Handle κ).Wrote s.files
        (⟨[], [], false⟩ : Attempt M).schemaBytes _ := Handle.wrote_openExisting hs.schema
    have hdata : (BufWriter.new ⟨paths.file dataFilePath, 0⟩ : BufWriter κ).Wrote s.files
        (⟨[], [], false⟩ : Attempt M).dataBytes _ := ⟨[], rfl, Handle.wrote_openExisting hs.data⟩
    obtain ⟨hleft, hdone⟩ := exportLoop_left answers ⟨[], [], false⟩ hne rfl hschema hdata
    have hwritten := Written.append network hleft
    rcases hloop : exportLoop answers ⟨paths.file schemaFilePath, 0⟩
      (BufWriter.new ⟨paths.file dataFilePath, 0⟩) ⟨[], [], false⟩ s.files
      with ⟨e | ⟨⟩, attempt, files⟩
    · rw [hloop] at hwritten hdone
      simp only [hloop]
      exact ⟨hwritten, by simpa using hdone⟩
    · rw [hloop] at hwritten hdone
      simp only [hloop]
      exact ⟨hwritten, attempt, by simp, hdone.mpr rfl⟩

/-! ## The export -/

/-- An export is all or nothing: if it succeeds, the files hold what the last attempt received, up
to the end of the export; if it fails, neither file remains. -/
def AllOrNothing (schemaFile dataFile : κ) (res : Result Unit) (s : ExportState ν κ M) : Prop :=
  match res with
  | .ok () => ∃ a ∈ s.attempts.getLast?, a.done = true ∧
      s.files schemaFile = some a.schemaBytes ∧ s.files dataFile = some a.dataBytes
  | .error _ => s.files schemaFile = none ∧ s.files dataFile = none

/-- No attempt before a successful one wrote more to either file. -/
def NoneLonger (attempts : List (Attempt M)) : Prop :=
  ∀ before a, attempts = before ++ [a] → a.done = true → ∀ b ∈ before,
    b.schemaBytes.length ≤ a.schemaBytes.length ∧ b.dataBytes.length ≤ a.dataBytes.length

omit [DecidableEq κ] in
theorem Between.noneLonger {schemaFile dataFile : κ} {s : ExportState ν κ M}
    (h : Between schemaFile dataFile s) : NoneLonger s.attempts := by
  intro before a hs hdone
  have := h.failed a (by rw [hs]; simp)
  rw [hdone] at this
  cases this

omit [DecidableEq κ] in
theorem Exported.allOrNothing_iff {schemaFile dataFile : κ} {s : ExportState ν κ M}
    (h : Exported schemaFile dataFile s) :
    AllOrNothing schemaFile dataFile (.ok ()) s ↔ NoneLonger s.attempts := by
  obtain ⟨a, ha, hdone⟩ := h.done
  obtain ⟨before, hs⟩ := List.getLast?_eq_some_iff.mp ha
  have hschema := h.schema
  have hdata := h.data
  rw [hs, List.map_append, List.map_singleton] at hschema hdata
  constructor
  · rintro ⟨a', ha', -, hschema', hdata'⟩ before' b hs' - c hc
    obtain ⟨rfl, rfl⟩ : before = before' ∧ a = b := by simpa [hs] using hs'
    obtain rfl : a = a' := Option.mem_unique ha ha'
    have hschema := contentAfter_concat_eq_iff.mp (Option.some.inj (hschema.symm.trans hschema'))
    have hdata := contentAfter_concat_eq_iff.mp (Option.some.inj (hdata.symm.trans hdata'))
    exact ⟨hschema _ (List.mem_map_of_mem hc), hdata _ (List.mem_map_of_mem hc)⟩
  · intro hlonger
    have hlonger := hlonger before a hs hdone
    refine ⟨a, ha, hdone, hschema.trans (congrArg some ?_), hdata.trans (congrArg some ?_)⟩
    · refine contentAfter_concat_eq_iff.mpr fun bytes hbytes => ?_
      obtain ⟨b, hb, rfl⟩ := List.mem_map.mp hbytes
      exact (hlonger b hb).1
    · refine contentAfter_concat_eq_iff.mpr fun bytes hbytes => ?_
      obtain ⟨b, hb, rfl⟩ := List.mem_map.mp hbytes
      exact (hlonger b hb).2

/-- **An export is all or nothing exactly when no attempt before a successful one wrote more to
either file**, for every network, every sequence of attempts and all that they receive. -/
theorem exportToFile_allOrNothing_iff [DecidableEq π] (net : Network ν) (paths : Paths π κ)
    (databaseExport : DatabaseExport ν M) (schemaFilePath dataFilePath : π)
    (w : World (ExportState ν κ M))
    (hschema : w.outside.state.files (paths.file schemaFilePath) = none)
    (hdata : w.outside.state.files (paths.file dataFilePath) = none)
    (hattempts : w.outside.state.attempts = []) :
    let res := exportToFile net paths databaseExport schemaFilePath dataFilePath w
    AllOrNothing (paths.file schemaFilePath) (paths.file dataFilePath) res.1 res.2.outside.state ↔
      NoneLonger res.2.outside.state.attempts := by
  intro res
  have hnone : NoneLonger w.outside.state.attempts := by
    intro before a h
    simp [hattempts] at h
  by_cases hpath : schemaFilePath = dataFilePath
  · have hres : res = (.error (.migration .cannotExportToTheSameFile), w) := by
      simp only [res, exportToFile, if_pos hpath]
    rw [hres]
    exact ⟨fun _ => hnone, fun _ => ⟨hschema, hdata⟩⟩
  have hcreate : tryCreateExportFile paths schemaFilePath w.outside.state.files =
      .ok (Function.update w.outside.state.files (paths.file schemaFilePath) (some [])) := by
    simp [tryCreateExportFile, createNew, hschema]
  by_cases hfile : paths.file schemaFilePath = paths.file dataFilePath
  · -- two paths to one file: the second creation fails, and the file is removed
    obtain ⟨e, he⟩ : ∃ e, tryCreateExportFile paths dataFilePath (Function.update
        w.outside.state.files (paths.file schemaFilePath) (some [])) = .error e := by
      simp [tryCreateExportFile, createNew, ← hfile]
    have hres : res = (.error e, withFiles (removeFile (paths.file schemaFilePath)
        (Function.update w.outside.state.files (paths.file schemaFilePath) (some []))) w) := by
      simp only [res, exportToFile, if_neg hpath, hcreate, he]
    rw [hres]
    refine ⟨fun _ => hnone, fun _ => ⟨Function.update_self _ _ _, ?_⟩⟩
    rw [← hfile]
    exact Function.update_self _ _ _
  · have hcreate' : tryCreateExportFile paths dataFilePath (Function.update
        w.outside.state.files (paths.file schemaFilePath) (some [])) = .ok (Function.update
          (Function.update w.outside.state.files (paths.file schemaFilePath) (some []))
          (paths.file dataFilePath) (some [])) := by
      simp [tryCreateExportFile, createNew, Function.update_of_ne (Ne.symm hfile), hdata]
    have hbetween : Between (paths.file schemaFilePath) (paths.file dataFilePath)
        (withFiles (Function.update (Function.update w.outside.state.files
          (paths.file schemaFilePath) (some [])) (paths.file dataFilePath) (some []))
          w).outside.state := by
      refine ⟨⟨?_, ?_⟩, ?_⟩ <;> simp [withFiles, hattempts, contentAfter, Function.update_of_ne hfile]
    have hex := World.execute_auto_meets (exportNetwork_keeps net _ _)
      (exportTask_meets paths databaseExport hfile).lift hbetween
    simp only [res, exportToFile, if_neg hpath, hcreate, hcreate']
    split <;> rename_i hrun <;> rw [hrun] at hex
    · exact hex.allOrNothing_iff
    · have hlonger := Between.noneLonger hex
      refine ⟨fun _ => hlonger, fun _ => ⟨?_, Function.update_self _ _ _⟩⟩
      exact (Function.update_of_ne hfile _ _).trans (Function.update_self _ _ _)

/-! ## An export that fails over -/

/-- A cluster of two, whose second server says that it is the primary when it is asked; the
network's state counts the export requests. -/
def failoverNetwork : Network ℕ where
  openConnection _ n := (.ok [], n)
  serversAll _ n := (.ok [⟨some { authority := "b:1729" }, some ⟨1, some .primary, some 2⟩⟩], n)
  hashOrder _ := ⟨id, List.Perm.refl⟩

/-- A manager that knows both servers and takes the first for the primary. -/
def failoverWorld : World (ExportState ℕ ℕ Bool) where
  manager :=
    { configuredAddresses := .direct [{ authority := "a:1729" }, { authority := "b:1729" }]
      replicas := ⟨[.fromPrivate { authority := "a:1729" } (some ⟨0, some .primary, some 1⟩),
        .fromPrivate { authority := "b:1729" } (some ⟨1, some .secondary, some 1⟩)], by decide⟩
      replicaConnections := ∅
      addressTranslation := .mapping ∅
      primaryFailoverRetries := 1 }
  outside := ⟨⟨0, fun _ => none, []⟩, 0⟩
  taskRuns := []
  cachedReplies := []

/-- The first attempt receives `first` and is cut off, the second one receives `second`. -/
def failoverExport (first second : List Bool) : DatabaseExport ℕ Bool := fun _ n =>
  (.ok (if n = 0 then
      [.ok (.schema "define"), .ok (.items first),
        .error (.connection .serverConnectionIsClosedUnexpectedly)]
    else [.ok (.schema "define"), .ok (.items second), .ok .done]), n + 1)

def failoverPaths : Paths ℕ ℕ := ⟨id, fun _ => ""⟩

/-- An export to the files 0 and 1. -/
def failoverExported (first second : List Bool) : Result Unit × World (ExportState ℕ ℕ Bool) :=
  exportToFile failoverNetwork failoverPaths (failoverExport first second) 0 1 failoverWorld

/-- A first attempt that received an item less than the second leaves nothing behind. -/
theorem allOrNothing_failover :
    (failoverExported [true] [true, false]).1.isOk = true ∧
      AllOrNothing 0 1 (failoverExported [true] [true, false]).1
        (failoverExported [true] [true, false]).2.outside.state := by
  have hattempts : (failoverExported [true] [true, false]).2.outside.state.attempts =
      [⟨["define"], [true], false⟩, ⟨["define"], [true, false], true⟩] := by decide +kernel
  refine ⟨by decide +kernel, (exportToFile_allOrNothing_iff failoverNetwork failoverPaths
    (failoverExport [true] [true, false]) 0 1 failoverWorld rfl rfl rfl).mpr ?_⟩
  change NoneLonger (failoverExported [true] [true, false]).2.outside.state.attempts
  rw [hattempts]
  intro before a h _ b hb
  have happend : [⟨["define"], [true], false⟩] ++ [⟨["define"], [true, false], true⟩] =
    before ++ [a] := h
  obtain ⟨rfl, hlast⟩ := List.append_inj' happend rfl
  obtain rfl := List.singleton_inj.mp hlast
  obtain rfl := List.mem_singleton.mp hb
  decide +kernel

/-- Something else than what the last attempt received is in the data file, after a success. -/
def leftover (res : Result Unit) (s : ExportState ℕ ℕ Bool) : Bool :=
  res.isOk && s.attempts.getLast?.any fun a => s.files 1 ≠ some a.dataBytes

theorem not_allOrNothing_of_leftover {res : Result Unit} {s : ExportState ℕ ℕ Bool}
    (h : leftover res s = true) : ¬ AllOrNothing 0 1 res s := by
  cases res with
  | error e => cases h
  | ok v =>
    rintro ⟨a, ha, -, -, hdata⟩
    simp [leftover, Except.isOk, Option.mem_def.mp ha, hdata] at h

/-- A first attempt that received an item more than the second leaves its bytes in the file. -/
theorem not_allOrNothing_failover : ¬ ∀ (databaseExport : DatabaseExport ℕ Bool)
    (w : World (ExportState ℕ ℕ Bool)), w.outside.state.files 0 = none →
      w.outside.state.files 1 = none → w.outside.state.attempts = [] →
      AllOrNothing 0 1 (exportToFile failoverNetwork failoverPaths databaseExport 0 1 w).1
        (exportToFile failoverNetwork failoverPaths databaseExport 0 1 w).2.outside.state := by
  intro h
  have hleft : leftover (failoverExported [true, false] [true]).1
      (failoverExported [true, false] [true]).2.outside.state = true := by decide +kernel
  exact not_allOrNothing_of_leftover hleft
    (h (failoverExport [true, false] [true]) failoverWorld rfl rfl rfl)

end TypeDBDriver.Migration
