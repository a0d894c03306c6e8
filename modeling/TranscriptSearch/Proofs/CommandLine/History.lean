import TranscriptSearch.Proofs.CommandLine.Catalogue
import TranscriptSearch.Proofs.CommandLine.Run
import TranscriptSearch.Proofs.Service.Build
import TranscriptSearch.Proofs.Settings.Length

/-!
# Command line — searching what was indexed

Every run of the program is a process of its own: what one leaves for the next is the snapshot
file.  From a directory without one on, and as long as the settings stay the same, the snapshot
file holds what the runs have indexed, and a search answers from it.

* `Site.History`: the runs that index transcripts, what they should have indexed, and the files.
* `Site.Keeps`: the snapshot file holds a catalogue; `Site.History.keeps`: it holds what was
  indexed.
* `Site.History.exists_of_run`: no run that indexes transcripts and can save them is left out.
* `Site.search_answers`: a search lists the sessions whose transcripts satisfy the query.
* `Site.search_says_more`: that there are none is said, and some queries are taken for options.
-/

namespace TranscriptSearch

/-- The transcripts of a file, if it can be read. -/
def Surroundings.transcripts? (e : Surroundings) (file : Path) : Option (List Transcript) :=
  (e.files.read (Path.join e.cwd file)).toOption.bind fun octets =>
    (Text.decodeAll octets).bind Transcript.readText?

/-- The catalogue after a run that indexed transcripts: a full one begins with nothing. -/
def Catalogue.indexed (m : Catalogue) (update : Bool) (ts : List Transcript) : Catalogue :=
  (if update then m else .empty).overlay ts

namespace CommandLine

theorem Workplace.toOption_transcripts (w : Workplace) (file : Path) :
    (w.transcripts file).toOption = w.surroundings.transcripts? file := by
  rw [transcripts, Surroundings.transcripts?]
  cases w.surroundings.files.read (Path.join w.surroundings.cwd file) with
  | error cause => rfl
  | ok octets =>
      simp only [Except.toOption, Option.bind_some]
      cases Text.decodeAll octets with
      | none => rfl
      | some t =>
          simp only [Option.bind_some]
          cases Transcript.readText? t with
          | none => rfl
          | some ts => rfl

theorem Workplace.transcripts_of_some {w : Workplace} {file : Path} {ts : List Transcript}
    (h : w.surroundings.transcripts? file = some ts) : w.transcripts file = .ok ts := by
  rw [← toOption_transcripts] at h
  cases hts : w.transcripts file with
  | error c => rw [hts] at h; cases h
  | ok ts' => rw [hts] at h; cases h; rfl

namespace Site

/-! ### Histories -/

/-- What happened at a site: whether transcripts have been indexed, what should be indexed, and
the files. -/
inductive History (site : Site) : Bool → Catalogue → FileTree → Prop where
  /-- At first there is no snapshot file. -/
  | start {files : FileTree} (h : site.store.holdsFile files = false) :
      History site false .empty files
  /-- Others change files, but not the snapshot file. -/
  | others {done : Bool} {m : Catalogue} {files files' : FileTree} (h : History site done m files)
      (hfile : files'.read site.store.path = files.read site.store.path) :
      History site done m files'
  /-- The transcripts of a file are indexed.  What is written can be read again. -/
  | indexed {done : Bool} {m : Catalogue} {e : Surroundings} {words : List Text} {file : Path}
      {update : Bool} {ts : List Transcript} (h : History site done m e.files)
      (hwords : site.Asks e words (.index file update)) (hts : e.transcripts? file = some ts)
      (hcode : (run e words).code = 0) (hfits : (m.indexed update ts).Fits) :
      History site true (m.indexed update ts) (run e words).files
  /-- A run fails, but not for want of a save. -/
  | failed {done : Bool} {m : Catalogue} {e : Surroundings} {words : List Text} {file : Path}
      {update : Bool} (h : History site done m e.files)
      (hwords : site.Asks e words (.index file update)) (hcode : (run e words).code ≠ 0)
      (hsaves : ∀ x, (site.store.save e.refused e.files x).2 = none) :
      History site done m (run e words).files

/-- The snapshot file holds a catalogue, or nothing was indexed yet and there is no such file. -/
def Keeps (site : Site) (done : Bool) (m : Catalogue) (files : FileTree) : Prop :=
  if done then ∃ x, site.store.load .none files = .ok x ∧ x.index.Holds site.settings.rule m
  else m = .empty ∧ site.store.holdsFile files = false

variable {site : Site} {done : Bool} {m : Catalogue} {files files' : FileTree}

theorem Keeps.others (h : site.Keeps done m files)
    (hfile : files'.read site.store.path = files.read site.store.path) :
    site.Keeps done m files' := by
  cases done with
  | true =>
      obtain ⟨x, hload, hx⟩ := h
      exact ⟨x, (Store.load_eq_of_read_eq hfile).trans hload, hx⟩
  | false =>
      obtain ⟨rfl, hholds⟩ := h
      refine ⟨rfl, ?_⟩
      rw [Store.holdsFile, Bool.eq_false_iff, Ne, FileTree.isFile_iff, ← hfile] at hholds
      rw [Store.holdsFile, Bool.eq_false_iff, Ne, FileTree.isFile_iff]
      exact hholds

/-- What a service of its own starts from. -/
theorem Keeps.base (h : site.Keeps done m files) {refused : Refusals} {x : Index}
    (hx : (Service.start site.store site.settings.rule).base refused files = .ok x) :
    x.Holds site.settings.rule m := by
  obtain ⟨y, (hload : site.store.load refused files = _), rfl⟩ |
    ⟨place, (hload : site.store.load refused files = _), rfl⟩ := Service.of_base rfl hx
  · cases done with
    | true =>
        obtain ⟨z, hz, hholds⟩ := h
        rw [Store.load_eq, hz] at hload
        split at hload
        next => cases hload
        next => cases hload; exact hholds
    | false => exact absurd hload (Store.load_ne_ok h.2 y)
  · cases done with
    | true =>
        obtain ⟨z, hz, -⟩ := h
        rw [Store.load_eq, hz] at hload
        split at hload <;> cases hload
    | false =>
        obtain ⟨rfl, -⟩ := h
        exact .empty _

/-- What a build makes of it. -/
theorem Keeps.newIndex (h : site.Keeps done m files) {refused : Refusals} {update : Bool}
    {ts : List Transcript} {x : Index}
    (hx : (Service.start site.store site.settings.rule).newIndex refused files
      (Workplace.request update ts) = .ok x) :
    x.Holds site.settings.rule (m.indexed update ts) := by
  cases update with
  | false =>
      cases hx
      exact (Index.Holds.empty site.settings.rule).merge fun _ => rfl
  | true =>
      rw [Workplace.request, if_pos rfl, Request.ofChanged, Request.fold, Service.newIndex] at hx
      cases hb : (Service.start site.store site.settings.rule).base refused files with
      | error e => rw [hb] at hx; cases hx
      | ok y =>
          rw [hb] at hx
          cases hx
          exact (h.base hb).merge (Request.standing?_ofChanged ts)

/-! ### One run -/

variable {w : Workplace} {e : Surroundings} {words : List Text} {file : Path} {update : Bool}
  {ts : List Transcript}

/-- A build that succeeds leaves the catalogue with its batch in the snapshot file. -/
theorem Keeps.built (h : site.Keeps done m w.surroundings.files)
    (hsettings : w.settings = site.settings) (hstore : w.store = site.store)
    (hrule : site.settings.rule.minLength < UInt64.size) (hfits : (m.indexed update ts).Fits)
    (hok : (w.built update ts).2.isOk = true) :
    site.Keeps true (m.indexed update ts) (w.built update ts).1 := by
  cases hb : w.built update ts with
  | mk files' result =>
      rw [hb] at hok
      cases result with
      | error failure => cases hok
      | ok x =>
          rw [Workplace.built, hsettings, hstore] at hb
          obtain ⟨hindex, hx, hsave⟩ := Service.of_construct hb
          have hholds := h.newIndex hindex
          have hload : site.store.load .none files' = site.store.ofOctets x.octets :=
            Store.load_of_save hsave
          exact ⟨x.truncated, hload.trans (Store.ofOctets_octets hholds.linked
            (hholds.storable hfits hrule) (by rw [hx]; rfl)), hholds⟩

/-- A build that fails, but not for want of a save, leaves the files alone. -/
theorem files_of_not_built (hstore : w.store = site.store)
    (hsaves : ∀ x, (site.store.save w.surroundings.refused w.surroundings.files x).2 = none)
    (hfail : (w.built update ts).2.isOk = false) :
    (w.built update ts).1 = w.surroundings.files := by
  cases hb : w.built update ts with
  | mk files' result =>
      rw [hb] at hfail
      cases result with
      | ok x => cases hfail
      | error failure =>
          obtain ⟨hfiles, -⟩ | ⟨x, cause, -, hsave⟩ := Service.of_construct_error hb
          · exact hfiles
          · have := hsaves x
            rw [← hstore, show w.store.save _ _ x = _ from hsave] at this
            cases this

/-! ### All runs -/

/-- **The snapshot file holds what was indexed.** -/
theorem History.keeps (h : site.History done m files) : site.Keeps done m files := by
  induction h with
  | start h => exact ⟨rfl, h⟩
  | others _ hfile ih => exact ih.others hfile
  | @indexed done m e words file update ts _ hwords hts hcode hfits ih =>
      obtain ⟨w, rfl, hsettings, hstore, hrun⟩ := hwords.run_eq
      obtain ⟨hfiles, hcode'⟩ := Workplace.index_of_ok update (Workplace.transcripts_of_some hts)
      rw [hrun, Workplace.perform] at hcode ⊢
      rw [hfiles]
      refine ih.built hsettings hstore (Settings.minLength_rule_lt hwords.settings) hfits ?_
      by_contra hfail
      rw [hcode', if_neg hfail] at hcode
      cases hcode
  | @failed done m e words file update _ hwords hcode hsaves ih =>
      obtain ⟨w, rfl, hsettings, hstore, hrun⟩ := hwords.run_eq
      rw [hrun, Workplace.perform] at hcode ⊢
      cases hts : w.transcripts file with
      | error c => rwa [(Workplace.index_of_error update hts).2]
      | ok ts =>
          obtain ⟨hfiles, hcode'⟩ := Workplace.index_of_ok update hts
          have hfail : (w.built update ts).2.isOk = false := by
            by_contra hok
            rw [hcode', if_pos (Bool.eq_true_of_not_eq_false hok)] at hcode
            exact hcode rfl
          rwa [hfiles, files_of_not_built hstore hsaves hfail]

/-- **Every indexing run is told of**, when its save does not fail and what it writes reads back. -/
theorem History.exists_of_run (h : site.History done m e.files)
    (hwords : site.Asks e words (.index file update))
    (hsaves : ∀ x, (site.store.save e.refused e.files x).2 = none)
    (hfits : ∀ ts, e.transcripts? file = some ts → (m.indexed update ts).Fits) :
    ∃ done m, site.History done m (run e words).files := by
  by_cases hcode : (run e words).code = 0
  · obtain ⟨w, rfl, -, -, hrun⟩ := hwords.run_eq
    cases hts : w.transcripts file with
    | error c =>
        rw [hrun, Workplace.perform, (Workplace.index_of_error update hts).1] at hcode
        cases hcode
    | ok ts =>
        have hread : w.surroundings.transcripts? file = some ts := by
          rw [← Workplace.toOption_transcripts, hts]
          rfl
        exact ⟨_, _, h.indexed hwords hread hcode (hfits ts hread)⟩
  · exact ⟨_, _, h.failed hwords hcode hsaves⟩

/-- A search at a site where something was indexed is one of the catalogue. -/
theorem History.search_eq {query : Text} (h : site.History true m e.files)
    (hwords : site.Asks e words (.search query false)) (hread : e.refused .read = false) :
    (run e words).code = 0 ∧ (run e words).files = e.files ∧ ∃ keys,
      m.Lists site.settings.rule (site.settings.vocabulary.parse query) keys ∧
        (run e words).answer = Workplace.sessionsText keys := by
  obtain ⟨w, rfl, hsettings, hstore, hrun⟩ := hwords.run_eq
  obtain ⟨x, hload, hx⟩ := h.keeps
  have hload' : w.store.load w.surroundings.refused w.surroundings.files = .ok x := by
    rw [hstore, Store.load_eq, hread]
    exact hload
  obtain ⟨hcode, hfiles, hanswer⟩ := Workplace.search_of_load query false hload'
  rw [hrun, Workplace.perform]
  exact ⟨hcode, hfiles, _, hx.lists _ _, hsettings ▸ hanswer⟩

/-! ### A site -/

/-- A session of one line. -/
def talk (year sessionId : UInt32) (text : String) : Transcript :=
  ⟨year, sessionId, none, [⟨text.toList, ⟨0⟩⟩]⟩

/-- A directory with two files of transcripts and no settings file. -/
def twoFiles : FileTree where
  entries := .ofList
    [(["talks.json".toList], .file (Text.encode (Transcript.writeAll
        [talk 2015 101 "Swift is great"]))),
      (["more.json".toList], .file (Text.encode (Transcript.writeAll
        [talk 2016 202 "Concurrency in Swift"])))]

/-- What surrounds a run in that directory. -/
def around (files : FileTree) : Surroundings :=
  ⟨files, "/".toList, "/".toList, .atSecond 0, false, .none⟩

@[simp] theorem files_around (files : FileTree) : (around files).files = files := rfl

/-- The default settings are in force there. -/
def bare : Site := ⟨.default, "/.scribe".toList⟩

/-- The files after the first file was indexed. -/
def afterTalks : FileTree := (run (around twoFiles) ["index".toList, "talks.json".toList]).files

/-- The files after the second file was indexed too. -/
def afterMore : FileTree :=
  (run (around afterTalks) ["index".toList, "--update".toList, "more.json".toList]).files

/-- What was indexed after the first file. -/
def talks : Catalogue := Catalogue.indexed .empty false [talk 2015 101 "Swift is great"]

theorem history_afterTalks : bare.History true talks afterTalks := by
  have start : bare.History false .empty (around twoFiles).files := .start (by decide)
  have asks : bare.Asks (around twoFiles) ["index".toList, "talks.json".toList]
      (.index "talks.json".toList false) :=
    ⟨by decide, ⟨.index "talks.json".toList false, none, 0⟩, by rfl, rfl, by decide⟩
  have read : (around twoFiles).transcripts? "talks.json".toList =
      some [talk 2015 101 "Swift is great"] := by decide
  have done : (run (around twoFiles) ["index".toList, "talks.json".toList]).code = 0 := by
    decide
  have fits : talks.Fits := ⟨by decide, by decide, by decide⟩
  exact .indexed start asks read done fits

/-- What was indexed after the second file. -/
def both : Catalogue := talks.indexed true [talk 2016 202 "Concurrency in Swift"]

theorem history_afterMore : bare.History true both afterMore := by
  have start : bare.History true talks (around afterTalks).files := by
    rw [files_around]
    exact history_afterTalks
  have asks : bare.Asks (around afterTalks) ["index".toList, "--update".toList, "more.json".toList]
      (.index "more.json".toList true) :=
    ⟨by decide, ⟨.index "more.json".toList true, none, 0⟩, by rfl, rfl, by decide⟩
  have read : (around afterTalks).transcripts? "more.json".toList =
      some [talk 2016 202 "Concurrency in Swift"] := by decide
  have done : (run (around afterTalks)
      ["index".toList, "--update".toList, "more.json".toList]).code = 0 := by decide +kernel
  have fits : both.Fits := ⟨by decide +kernel, by decide +kernel, by decide +kernel⟩
  exact .indexed start asks read done fits

/-- **The program answers from exactly what was indexed.**  Every query can be asked, after two
hyphens, or without them when it does not look like an option.  Once transcripts have been indexed
at a site, a search for it succeeds and changes no files; it prints the keys of the catalogue whose
transcripts satisfy the query, in ascending order, one on a line, or says that there are none. -/
theorem search_answers :
    (∀ query, Invocation.parse ["search".toList, "--".toList, query] =
      .ok ⟨.search query false, none, 0⟩) ∧
    (∀ query, shape query = .plain → Invocation.parse ["search".toList, query] =
      .ok ⟨.search query false, none, 0⟩) ∧
    ∀ (site : Site) (m : Catalogue) (e : Surroundings) (words : List Text) (query : Text),
      site.History true m e.files → site.Asks e words (.search query false) →
      e.refused .read = false →
      (run e words).code = 0 ∧ (run e words).files = e.files ∧ ∃ keys,
        m.Lists site.settings.rule (site.settings.vocabulary.parse query) keys ∧
        ∀ ms, (run e words).answer.text ms =
          if keys = [] then "No matching sessions.\n".toList
          else keys.flatMap fun k => k.text ++ ['\n'] := by
  refine ⟨parse_search_escaped, fun query h => parse_search_plain h,
    fun site m e words query h hwords hread => ?_⟩
  obtain ⟨hcode, hfiles, keys, hkeys, hanswer⟩ := h.search_eq hwords hread
  exact ⟨hcode, hfiles, keys, hkeys, fun ms => by rw [hanswer, Workplace.text_sessionsText]⟩

/-- After two runs both sessions are found. -/
theorem both_search_answers :
    (run (around afterMore) ["search".toList, "--".toList, "swift".toList]).answer.text 0 =
      "2015-101\n2016-202\n".toList ∧
    bare.History true both (around afterMore).files ∧
    ∃ keys, both.Lists bare.settings.rule (bare.settings.vocabulary.parse "swift".toList) keys ∧
      ∀ ms, (run (around afterMore) ["search".toList, "--".toList, "swift".toList]).answer.text ms =
        if keys = [] then "No matching sessions.\n".toList
        else keys.flatMap fun k => k.text ++ ['\n'] := by
  have start : bare.History true both (around afterMore).files := by
    rw [files_around]
    exact history_afterMore
  have asks : bare.Asks (around afterMore) ["search".toList, "--".toList, "swift".toList]
      (.search "swift".toList false) :=
    ⟨by decide +kernel, _, search_answers.1 "swift".toList, rfl, by decide +kernel⟩
  exact ⟨by decide +kernel, start,
    (search_answers.2.2 bare both (around afterMore) _ _ start asks rfl).2.2⟩

/-- A run that searches for a query prints the keys of the transcripts that satisfy it, and nothing
else. -/
def PrintsKeys (site : Site) (m : Catalogue) (e : Surroundings) (query : Text) : Prop :=
  (run e ["search".toList, query]).code = 0 ∧ ∃ keys,
    m.Lists site.settings.rule (site.settings.vocabulary.parse query) keys ∧
    ∀ ms, (run e ["search".toList, query]).answer.text ms =
      keys.flatMap fun k => k.text ++ ['\n']

/-- A search that finds nothing says so, and a query that looks like an option is one. -/
theorem search_says_more :
    bare.History true talks (around afterTalks).files ∧
    ¬ bare.PrintsKeys talks (around afterTalks) "python".toList ∧
    ¬ bare.PrintsKeys talks (around afterTalks) "-swift".toList := by
  refine ⟨by rw [files_around]; exact history_afterTalks, fun ⟨_, keys, _, htext⟩ => ?_,
    fun ⟨hcode, _⟩ => ?_⟩
  · have hprinted : (run (around afterTalks) ["search".toList, "python".toList]).answer.text 0 =
        "No matching sessions.\n".toList := by decide +kernel
    have hkeys := (htext 0).symm.trans hprinted
    cases keys with
    | nil => cases hkeys
    | cons k keys =>
        -- A key begins with a digit.
        obtain ⟨c, rest, hdecimal, hdigit, -⟩ := Number.decimal_eq_cons k.year.toNat
        rw [List.flatMap_cons, SessionKey.text, hdecimal] at hkeys
        obtain rfl : c = 'N' := (List.cons.inj hkeys).1
        cases hdigit
  · have hrefused : (run (around afterTalks) ["search".toList, "-swift".toList]).code = 2 := by
      decide
    rw [hrefused] at hcode
    cases hcode

end Site

end CommandLine

end TranscriptSearch
