import TranscriptSearch.Proofs.CommandLine.History
import TranscriptSearch.Proofs.CommandLine.Unusable
import TranscriptSearch.Proofs.Service.Stamp
import TranscriptSearch.Proofs.Snapshot.Elsewhere

/-!
# Command line — a snapshot of other settings

Between the runs of the program the settings may change in any way.  Wherever a snapshot file comes
from a run, it has the fingerprint of the rule for terms that is written in it, so that a search
under settings with another fingerprint does not answer, and an update does not write.

* `CommandLine.of_run`: what a run does to the files.
* `CommandLine.Upkeep`: what may have happened since there was no snapshot file at a place.
* `Upkeep.isStampedAt`: a snapshot file there has the fingerprint of its own rule.
* `Site.Heeds`: what the commands at a site make of the fingerprint of a snapshot file.
* `CommandLine.fingerprint_heeded`: all of them heed it, whatever the settings were and are.
-/

namespace TranscriptSearch

namespace CommandLine

/-! ### What a run does to the files -/

theorem Workplace.files_withSnapshot {w : Workplace} {remarks : Output}
    {next : Output → Snapshot → Effect}
    (h : ∀ remarks x, (next remarks x).files = w.surroundings.files) :
    (w.withSnapshot remarks next).files = w.surroundings.files := by
  rw [withSnapshot]
  split
  next => exact h _ _
  next => rfl
  next => rfl

theorem Workplace.exists_load_of_code {w : Workplace} {remarks : Output}
    {next : Output → Snapshot → Effect} (h : (w.withSnapshot remarks next).code = 0) :
    ∃ x, w.store.load w.surroundings.refused w.surroundings.files = .ok x := by
  rw [withSnapshot] at h
  split at h
  next x hload => exact ⟨x, hload⟩
  next => cases h
  next => cases h

/-- **A run leaves the files alone, or leaves the files of its build.** -/
theorem of_run (e : Surroundings) (words : List Text) :
    (run e words).files = e.files ∨
      ∃ (w : Workplace) (update : Bool) (ts : List Transcript), w.surroundings = e ∧
        Settings.load e.files e.home e.cwd = .ok w.settings ∧
        (run e words).files = (w.built update ts).1 := by
  rw [run]
  split
  next i _ =>
    rw [invoke]
    split
    next => exact .inl rfl
    next settings hsettings =>
      cases hc : i.command with
      | index file update =>
          rw [Workplace.perform]
          cases hts : Workplace.transcripts ⟨e, settings, i.directory, i.verbosity⟩ file with
          | error c => exact .inl (Workplace.index_of_error update hts).2
          | ok ts =>
              exact .inr ⟨_, update, ts, rfl, hsettings, (Workplace.index_of_ok update hts).1⟩
      | search query json => exact .inl (Workplace.files_withSnapshot fun _ _ => rfl)
      | lines session query json =>
          refine .inl ?_
          rw [Workplace.perform, Workplace.lines]
          split
          next => rfl
          next =>
            refine Workplace.files_withSnapshot fun _ _ => ?_
            split <;> rfl
      | status =>
          refine .inl ?_
          rw [Workplace.perform, Workplace.status]
          split <;> rfl
      | config => exact .inl rfl
  next => exact .inl rfl
  next => exact .inl rfl

/-! ### A place of a snapshot file -/

/-- What may have happened to the files since there was no snapshot file at a place. -/
inductive Upkeep (home : Place) : FileTree → Prop where
  /-- At first there is no snapshot file. -/
  | start {files : FileTree}
      (h : ∀ octets, files.at? (home ++ [Store.fileName]) ≠ some (.file octets)) :
      Upkeep home files
  /-- Others change files, settings files among them, but make no snapshot file. -/
  | others {files files' : FileTree} (h : Upkeep home files)
      (hfile : ∀ octets, files'.at? (home ++ [Store.fileName]) = some (.file octets) →
        files.at? (home ++ [Store.fileName]) = some (.file octets)) :
      Upkeep home files'
  /-- The program runs. -/
  | ran {e : Surroundings} (h : Upkeep home e.files) (words : List Text) :
      Upkeep home (run e words).files

/-- A snapshot file at a place has the fingerprint of its own rule. -/
def IsStampedAt (home : Place) (files : FileTree) : Prop :=
  ∀ octets, files.at? (home ++ [Store.fileName]) = some (.file octets) →
    ∃ x : Snapshot, x.IsStamped ∧ octets = x.octets

variable {home : Place} {files : FileTree}

/-- **A build leaves such a file**: it has loaded what stood at the place, or nothing. -/
theorem IsStampedAt.built {w : Workplace} (h : IsStampedAt home w.surroundings.files)
    (hrule : w.settings.rule.minLength < UInt64.size) (update : Bool) (ts : List Transcript) :
    IsStampedAt home (w.built update ts).1 := by
  intro octets hoctets
  cases hb : w.built update ts with
  | mk files' result =>
      rw [hb] at hoctets
      rw [Workplace.built] at hb
      cases result with
      | error failure =>
          obtain ⟨rfl, -⟩ | ⟨x, cause, -, hsave⟩ := Service.of_construct_error hb
          · exact h octets hoctets
          · obtain hold | ⟨hnone, -⟩ := Store.file_of_save hsave hoctets
            · exact h octets hold
            · cases hnone
      | ok x =>
          obtain ⟨-, -, hsave⟩ := Service.of_construct hb
          obtain hold | ⟨-, rfl, hpath⟩ := Store.file_of_save hsave hoctets
          · exact h octets hold
          refine ⟨x, Service.isStamped_of_construct hrule (fun {y} hload => ?_) hb, rfl⟩
          -- the file that was loaded stood where the new one stands
          obtain ⟨octets, hread, hy⟩ := Store.of_load hload
          obtain ⟨q, hfollow, hat⟩ := FileTree.of_read hread
          obtain rfl : q = home ++ [Store.fileName] :=
            Except.ok.inj (((Store.keeps_of_save hsave).follow hfollow).symm.trans hpath)
          obtain ⟨x₀, hx₀, rfl⟩ := h octets hat
          obtain ⟨hf, rfl⟩ := hx₀.of_ofOctets hy
          exact ⟨hx₀.reread, hf⟩

/-- **A snapshot file has the fingerprint of its own rule**, whatever has happened since there was
none. -/
theorem Upkeep.isStampedAt (h : Upkeep home files) : IsStampedAt home files := by
  induction h with
  | start h => exact fun octets hoctets => absurd hoctets (h octets)
  | others _ hfile ih => exact fun octets hoctets => ih octets (hfile octets hoctets)
  | @ran e _ words ih =>
      obtain hsame | ⟨w, update, ts, rfl, hsettings, hbuilt⟩ := of_run e words
      · rwa [hsame]
      · rw [hbuilt]
        exact ih.built (Settings.minLength_rule_lt hsettings) update ts

/-! ### A site with such a file -/

/-- What the commands at a site make of the fingerprint of a snapshot file. -/
structure Site.Heeds (site : Site) (e : Surroundings) (x : Snapshot) : Prop where
  /-- A search that answers does so from an index with the fingerprint of the settings. -/
  answers : ∀ {words query json}, site.Asks e words (.search query json) → (run e words).code = 0 →
    x.fingerprint = site.settings.fingerprint ∧
      (run e words).answer = Workplace.sessionsOutput query json
        (x.index.matchingSessions site.settings.vocabulary query)
  /-- The file can be read, unless its counts are too large. -/
  readable : x.index.IsCountable → x.IsReadable
  /-- For these settings a search answers. -/
  succeeds : x.fingerprint = site.settings.fingerprint → x.IsReadable → e.refused .read = false →
    ∀ {words query json}, site.Asks e words (.search query json) →
      (run e words).code = 0 ∧ (run e words).files = e.files
  /-- For other settings it fails, and says that the file is stale. -/
  stale : x.fingerprint ≠ site.settings.fingerprint → x.IsReadable → e.refused .read = false →
    ∀ {words query json}, site.Asks e words (.search query json) →
      ∃ remarks, run e words = ⟨1, [], remarks ++ Output.line (Output.ofString "error: " ++
        Workplace.unusable (.stale x.fingerprint site.settings.fingerprint)), e.files⟩
  /-- For other settings every command that needs the snapshot fails, an update among them, and
  leaves the files alone. -/
  refuses : x.fingerprint ≠ site.settings.fingerprint → ∀ {words c}, site.Asks e words c →
    needsSnapshot (.stale x.fingerprint site.settings.fingerprint) c = true →
      (run e words).code = 1 ∧ (run e words).files = e.files

variable {site : Site} {e : Surroundings} {x : Snapshot}

/-- What was written for other settings is not loaded, and is not missing. -/
theorem exists_error_of_read (hx : x.IsStamped)
    (hread : e.files.read site.store.path = .ok x.octets)
    (hf : x.fingerprint ≠ site.settings.fingerprint) :
    ∃ cause, site.store.load e.refused e.files = .error (.error cause) ∧
      cause.status ≠ .missing := by
  rw [Store.load_of_read hread]
  split
  next => exact ⟨_, rfl, by simp [SnapshotError.status]⟩
  next =>
    obtain ⟨cause, hcause, hmissing⟩ := hx.exists_error (s := site.store) hf
    refine ⟨cause, hcause, ?_⟩
    cases cause <;> simp_all [SnapshotError.status]

/-- **The commands at a site heed the fingerprint** of a snapshot file that has that of its own
rule. -/
theorem Site.heeds (hx : x.IsStamped) (hread : e.files.read site.store.path = .ok x.octets) :
    site.Heeds e x := by
  have loads : x.IsReadable → e.refused .read = false →
      site.store.load e.refused e.files =
        if x.fingerprint = site.settings.fingerprint then .ok x.reread
        else .error (.error (.stale x.fingerprint site.settings.fingerprint)) := by
    intro hr hrefused
    rw [Store.load_of_read hread, hrefused, if_neg Bool.false_ne_true]
    exact hx.ofOctets_eq hr site.store
  refine ⟨fun {words query json} hasks hcode => ?_, hx.isReadable,
    fun hf hr hrefused {words query json} hasks => ?_,
    fun hf hr hrefused {words query json} hasks => ?_, fun hf {words c} hasks hneeds => ?_⟩ <;>
    obtain ⟨w, rfl, hsettings, hstore, hrun⟩ := hasks.run_eq
  · rw [hrun] at hcode ⊢
    obtain ⟨y, hload⟩ := Workplace.exists_load_of_code hcode
    obtain ⟨octets, hoctets, hy⟩ := Store.of_load hload
    rw [hstore, hread] at hoctets
    obtain rfl := Except.ok.inj hoctets
    obtain ⟨hf, rfl⟩ := hx.of_ofOctets hy
    refine ⟨hf.trans (congrArg Store.fingerprint hstore), ?_⟩
    rw [← hsettings, ← Index.matchingSessions_reread]
    exact (Workplace.search_of_load query json hload).2.2
  · have hload := loads hr hrefused
    rw [if_pos hf, ← hstore] at hload
    obtain ⟨hcode, hfiles, -⟩ := Workplace.search_of_load query json hload
    rw [hrun]
    exact ⟨hcode, hfiles⟩
  · have hload := loads hr hrefused
    rw [if_neg hf, ← hstore] at hload
    obtain ⟨remarks, hfails⟩ := Workplace.withSnapshot_of_error hload _ _
    rw [hrun, Workplace.perform, Workplace.search, hfails]
    exact ⟨remarks, rfl⟩
  · obtain ⟨cause, hload, hcause⟩ := exists_error_of_read hx hread hf
    rw [← hstore] at hload
    rw [hrun]
    refine Workplace.code_eq_one_of_needs hload ?_
    cases c <;> simp_all [needsSnapshot]

/-! ### Settings and fingerprints -/

/-- **Only the least length counts**, and zero counts as one. -/
theorem fingerprint_congr {s s' : Settings}
    (h : max s.minTermLength 1 = max s'.minTermLength 1) : s.fingerprint = s'.fingerprint := by
  have rule : s.rule = s'.rule := TermRule.mk.injEq .. ▸ h
  rw [Settings.fingerprint, Settings.fingerprint, rule]

/-! ### What an indexing run leaves -/

/-- **What an indexing run leaves** at the path of its store is a snapshot for its settings. -/
theorem Site.exists_file_of_index {words : List Text} {file : Path} {update : Bool}
    (hasks : site.Asks e words (.index file update)) (hcode : (run e words).code = 0) :
    ∃ (home : Place) (x : Snapshot),
      (run e words).files.follow site.store.path = .ok (home ++ [Store.fileName]) ∧
      (run e words).files.at? (home ++ [Store.fileName]) = some (.file x.octets) ∧
      x.fingerprint = site.settings.fingerprint := by
  obtain ⟨w, rfl, hsettings, hstore, hrun⟩ := hasks.run_eq
  rw [hrun, Workplace.perform] at hcode ⊢
  cases hts : w.transcripts file with
  | error c =>
      rw [(Workplace.index_of_error update hts).1] at hcode
      cases hcode
  | ok ts =>
      obtain ⟨hfiles, hcode'⟩ := Workplace.index_of_ok update hts
      rw [hfiles]
      cases hb : w.built update ts with
      | mk files' result =>
          cases result with
          | error failure =>
              rw [hcode', hb] at hcode
              cases hcode
          | ok x =>
              rw [Workplace.built] at hb
              obtain ⟨-, hx, hsave⟩ := Service.of_construct hb
              obtain ⟨home, hstands, hfile⟩ := Store.stands_of_perform (Store.save_eq_none.1 hsave)
              refine ⟨home, x, ?_, hfile, ?_⟩
              · rw [← hstore]
                exact hstands.path
              · rw [hx, ← hsettings]
                rfl

/-! ### All runs -/

/-- **The fingerprint is heeded**, whatever the settings were and are.  A snapshot file that the
program has left at a place has the fingerprint of the current schema and of the least length that
is written in it, and a site whose directory leads there heeds it.  After a run has indexed
transcripts the file is not stale at any such site, as long as the least length stays the same,
zero counting as one. -/
theorem fingerprint_heeded :
    (∀ {home : Place} {files : FileTree} {octets : List UInt8}, Upkeep home files →
      files.at? (home ++ [Store.fileName]) = some (.file octets) →
      (∀ r, SnapshotRecord.read octets = .ok r → r.IsStamped) ∧
      ∃ x : Snapshot, octets = x.octets ∧ (SnapshotRecord.ofSnapshot x).IsStamped ∧
        ∀ (site : Site) (e : Surroundings), e.files = files →
          files.follow site.store.path = .ok (home ++ [Store.fileName]) → site.Heeds e x) ∧
    ∀ {site : Site} {e : Surroundings} {words : List Text} {file : Path} {update : Bool},
      site.Asks e words (.index file update) → (run e words).code = 0 →
      ∃ (home : Place) (octets : List UInt8),
        (run e words).files.follow site.store.path = .ok (home ++ [Store.fileName]) ∧
        (run e words).files.at? (home ++ [Store.fileName]) = some (.file octets) ∧
        ∀ (site' : Site) (e' : Surroundings),
          e'.files.follow site'.store.path = .ok (home ++ [Store.fileName]) →
          e'.files.at? (home ++ [Store.fileName]) = some (.file octets) →
          max site'.settings.minTermLength 1 = max site.settings.minTermLength 1 →
          ∀ stored expected,
            site'.store.load e'.refused e'.files ≠ .error (.error (.stale stored expected)) := by
  refine ⟨fun {home files octets} h hfile => ?_, fun {site e words file update} hasks hcode => ?_⟩
  · obtain ⟨x, hx, rfl⟩ := h.isStampedAt octets hfile
    refine ⟨fun r hr => hx.of_read hr, x, rfl, hx.record, ?_⟩
    rintro site e rfl hpath
    exact Site.heeds hx (Store.read_of_at? hpath hfile)
  · obtain ⟨home, x, hpath, hfile, hx⟩ := Site.exists_file_of_index hasks hcode
    refine ⟨home, x.octets, hpath, hfile, fun site' e' hpath' hfile' hlength stored expected => ?_⟩
    rw [Store.load_of_read (Store.read_of_at? hpath' hfile')]
    split
    next => intro h; cases h
    next =>
      refine Snapshot.ofOctets_ne_stale ?_ stored expected
      rw [hx]
      exact (fingerprint_congr hlength).symm

/-! ### Two edits -/

/-- The files after the settings file of the root was written. -/
def edit (files : FileTree) (settings : String) : FileTree :=
  files.set [Settings.fileName] (.file (Text.encode settings.toList))

/-- No edit of the settings touches a snapshot file. -/
theorem at?_edit (files : FileTree) (settings : String) (home : Place) :
    (edit files settings).at? (home ++ [Store.fileName]) =
      files.at? (home ++ [Store.fileName]) := by
  have names : [Store.fileName] ≠ [Settings.fileName] := by decide
  rw [edit, FileTree.at?_set (List.cons_ne_nil _ _), if_neg]
  intro e
  rw [← List.nil_append [Settings.fileName]] at e
  exact names (List.append_inj_right' e rfl)

/-- An edit after which a term has three characters or more. -/
def longTerms : FileTree := edit Site.afterTalks "[index]\nmin_token_len = 3\n"

/-- An edit after which a term may be as short as before; the directory is written in another way,
and fewer qualifiers are known. -/
def anyTerms : FileTree := edit Site.afterTalks
  "[index]\nmin_token_len = 0\ndir = \"./.scribe\"\n[search]\nqualifiers = [\"year\"]\n"

/-- The settings in force after the one edit. -/
def longSite : Site :=
  ⟨{ Settings.default with minTermLength := 3, root := some "/".toList }, "/.scribe".toList⟩

/-- The settings in force after the other edit. -/
def anySite : Site :=
  ⟨⟨"./.scribe".toList, 0, ["year".toList], some "/".toList⟩, "/./.scribe".toList⟩

/-- Words to index the first file. -/
def indexTalks : List Text := ["index".toList, "talks.json".toList]

/-- Words to index the second file too. -/
def updateMore : List Text := ["index".toList, "--update".toList, "more.json".toList]

/-- The octets of the snapshot file after the first file was indexed. -/
def talksOctets : List UInt8 :=
  match Site.afterTalks.at? ([Settings.defaultDirectory] ++ [Store.fileName]) with
  | some (.file octets) => octets
  | _ => []

/-- The one edit makes the file stale, and an update leaves it alone; the other edit does not. -/
theorem edits_heeded :
    (∃ x : Snapshot, talksOctets = x.octets ∧ x.IsReadable ∧
      x.fingerprint ≠ longSite.settings.fingerprint ∧
      longSite.Heeds (Site.around longTerms) x ∧
      (run (Site.around longTerms) updateMore).code = 1 ∧
      (run (Site.around longTerms) updateMore).files = longTerms) ∧
    Settings.load anyTerms "/".toList "/".toList = .ok anySite.settings ∧
      ∀ stored expected,
        anySite.store.load .none anyTerms ≠ .error (.error (.stale stored expected)) := by
  have talks : Site.afterTalks.at? ([Settings.defaultDirectory] ++ [Store.fileName]) =
      some (.file talksOctets) := by decide +kernel
  refine ⟨?_, by decide +kernel, ?_⟩
  · have before : Site.twoFiles.at? ([Settings.defaultDirectory] ++ [Store.fileName]) = none := by
      decide
    have start : Upkeep [Settings.defaultDirectory] (Site.around Site.twoFiles).files :=
      .start fun octets h => by rw [Site.files_around, before] at h; cases h
    have indexed : Upkeep [Settings.defaultDirectory] Site.afterTalks :=
      start.ran indexTalks
    have edited : Upkeep [Settings.defaultDirectory] longTerms :=
      indexed.others fun octets h => by rwa [longTerms, at?_edit] at h
    have file : longTerms.at? ([Settings.defaultDirectory] ++ [Store.fileName]) =
        some (.file talksOctets) := by rw [longTerms, at?_edit, talks]
    have leads : longTerms.follow longSite.store.path =
        .ok ([Settings.defaultDirectory] ++ [Store.fileName]) := by decide
    obtain ⟨-, x, hx, -, heeds⟩ := fingerprint_heeded.1 edited file
    have heeds := heeds longSite (Site.around longTerms) (Site.files_around _) leads
    have readable : (SnapshotRecord.read talksOctets).toOption.isSome = true := by decide +kernel
    have unlike : ∀ r ∈ (SnapshotRecord.read talksOctets).toOption,
        r.fingerprint ≠ longSite.settings.fingerprint := by decide +kernel
    obtain ⟨r, hr⟩ : x.IsReadable := by
      rw [hx] at readable
      cases hr : SnapshotRecord.read x.octets with
      | ok r => exact ⟨r, hr⟩
      | error fault => rw [hr] at readable; cases readable
    have other : x.fingerprint ≠ longSite.settings.fingerprint := by
      have same : r.fingerprint = x.fingerprint := (SnapshotRecord.of_read_encode hr).1
      rw [← same]
      exact unlike r (by rw [hx, hr]; rfl)
    have asks : longSite.Asks (Site.around longTerms) updateMore (.index "more.json".toList true) :=
      ⟨by decide +kernel, ⟨.index "more.json".toList true, none, 0⟩, by rfl, rfl, by decide +kernel⟩
    obtain ⟨code, files⟩ := heeds.refuses other asks rfl
    exact ⟨x, hx, ⟨r, hr⟩, other, heeds, code, files.trans (Site.files_around _)⟩
  · have asks : Site.bare.Asks (Site.around Site.twoFiles) indexTalks
        (.index "talks.json".toList false) :=
      ⟨by decide, ⟨.index "talks.json".toList false, none, 0⟩, by rfl, rfl,
        by decide⟩
    have done : (run (Site.around Site.twoFiles) indexTalks).code = 0 := by
      decide +kernel
    obtain ⟨home, octets, leads, file, fresh⟩ := fingerprint_heeded.2 asks done
    change Site.afterTalks.follow Site.bare.store.path = .ok (home ++ [Store.fileName]) at leads
    change Site.afterTalks.at? (home ++ [Store.fileName]) = some (.file octets) at file
    have same : Site.afterTalks.follow Site.bare.store.path =
        anyTerms.follow anySite.store.path := by decide
    refine fresh anySite (Site.around anyTerms) ?_ ?_ rfl
    · rw [Site.files_around, ← same, leads]
    · rw [Site.files_around, anyTerms, at?_edit, file]

end CommandLine

end TranscriptSearch
