-- SUMMARY: Which requests for files are answered, and where the files are that are opened for them.
import StreamCloud.Providers.Listener

/-!
# Static files

A request is answered with one response, unless it is one for a file whose host is
not given: then the handler throws (`answers_iff`). What is opened lies under the
document root or its `manager` directory.
-/

namespace StreamCloud.HttpServer

/-- A path starts with a separator and does not go up. -/
def Absolute (suffix : String) : Prop :=
  suffix.toList.head? = some '/' ∧ ¬ ['.', '.'] <:+: suffix.toList

/-- The path is the root and what follows. A separator at the end of the root is not
put there twice. -/
def Joins (root suffix path : String) : Prop :=
  path = root ++ suffix ∨ ∃ stem, root = stem ++ "/" ∧ path = stem ++ suffix

/-- The path of an index or of the target, in the document root or that of the manager. -/
def Allowed (docRoot target path : String) : Prop :=
  ∃ root suffix, (root = docRoot ∨ root = docRoot ++ "/manager") ∧
    (suffix = "/index.html" ∨ suffix = target ∧ Absolute target) ∧ Joins root suffix path

/-- The request gets one response and no exception, and what is opened is allowed. -/
def Answers (docRoot : String) (openFile : String → Opened) (req : Request) (session : Session) : Prop :=
  ∃ res opened, listener docRoot openFile req session = .ok (session.send res, opened) ∧
    ∀ path ∈ opened, Allowed docRoot req.target path

variable {docRoot : String} {openFile : String → Opened} {req : Request} {session : Session}

/-! ## Paths -/

theorem joins_pathCat (base path : String) : Joins base path (pathCat base path) := by
  unfold pathCat
  split
  · next hempty =>
    refine .inl ?_
    apply String.toList_injective
    rw [String.toList_append, hempty, List.nil_append]
  · split
    · next hne hlast =>
      -- the separator at the end is dropped
      refine .inr ⟨String.ofList base.toList.dropLast, ?_, ?_⟩
      · apply String.toList_injective
        have hchars := List.dropLast_append_getLast? '/' hlast
        rw [String.toList_append, String.toList_ofList]
        exact hchars.symm
      · apply String.toList_injective
        rw [String.toList_append, String.toList_ofList, String.toList_ofList]
    · refine .inl ?_
      apply String.toList_injective
      rw [String.toList_append, String.toList_ofList]

theorem rootPath_cases (docRoot host : String) :
    rootPath docRoot host = docRoot ∨ rootPath docRoot host = docRoot ++ "/manager" := by
  unfold rootPath
  split
  · refine .inr ?_
    rw [String.append_assoc]
    rfl
  · exact .inl rfl

theorem absolute_of_legal (h : req.illegalTarget = false) : Absolute req.target := by
  simp only [Request.illegalTarget, Bool.or_eq_false_iff, bne_eq_false_iff_eq,
    decide_eq_false_iff_not] at h
  exact ⟨h.1.2, h.2⟩

theorem allowed_filePath (h : req.illegalTarget = false) (host : String) :
    Allowed docRoot req.target (filePath docRoot host req.target) := by
  unfold filePath
  split
  · exact ⟨_, _, rootPath_cases docRoot host, .inl rfl, joins_pathCat _ _⟩
  · exact ⟨_, _, rootPath_cases docRoot host, .inr ⟨rfl, absolute_of_legal h⟩, joins_pathCat _ _⟩

/-! ## Answers -/

theorem field_returns_iff (name : String) :
    (req.field name).Returns ↔ ∃ f ∈ req.fields, iequals f.1 name := by
  unfold Request.field
  cases hfind : req.fields.find? fun f => iequals f.1 name with
  | none =>
    have hnone := List.find?_eq_none.mp hfind
    simpa using hnone
  | some f =>
    have hfound := List.find?_some hfind
    simp only [Except.returns_ok, true_iff]
    exact ⟨f, List.mem_of_find?_eq_some hfind, hfound⟩

/-- A request for a file, whose host is given. -/
theorem answers_of_host (hmethod : ¬ (req.method ≠ .get ∧ req.method ≠ .head))
    (htarget : req.illegalTarget = false) {host : String} (hhost : req.field "Host" = .ok host) :
    Answers docRoot openFile req session := by
  have hallowed : ∀ path ∈ [filePath docRoot host req.target], Allowed docRoot req.target path := by
    intro path hpath
    rw [List.mem_singleton.mp hpath]
    exact allowed_filePath htarget host
  unfold Answers listener
  rw [if_neg hmethod, if_neg (by simp [htarget]), hhost, Except.ok_bind']
  dsimp only
  cases hopened : openFile (filePath docRoot host req.target) with
  | noSuchFile => exact ⟨_, _, rfl, hallowed⟩
  | error message => exact ⟨_, _, rfl, hallowed⟩
  | size bytes => exact ⟨_, _, rfl, hallowed⟩

/-- A request gets its response, and no exception, if and only if it is not for a file
or gives the host. Whatever is opened is allowed. -/
theorem answers_iff : Answers docRoot openFile req session ↔
    (req.method ≠ .get ∧ req.method ≠ .head) ∨ req.illegalTarget = true ∨
      ∃ f ∈ req.fields, iequals f.1 "Host" := by
  by_cases hmethod : req.method ≠ .get ∧ req.method ≠ .head
  · have hanswer : listener docRoot openFile req session =
        .ok (session.send (req.badRequest "Unknown HTTP-method"), []) := if_pos hmethod
    exact iff_of_true ⟨_, [], hanswer, fun path hpath => nomatch hpath⟩ (.inl hmethod)
  · cases htarget : req.illegalTarget with
    | true =>
      have hanswer : listener docRoot openFile req session =
          .ok (session.send (req.badRequest "Illegal request-target"), []) :=
        (if_neg hmethod).trans (if_pos htarget)
      exact iff_of_true ⟨_, [], hanswer, fun path hpath => nomatch hpath⟩ (.inr (.inl rfl))
    | false =>
      have hrest : ((req.method ≠ .get ∧ req.method ≠ .head) ∨ false = true ∨
          ∃ f ∈ req.fields, iequals f.1 "Host") ↔ (req.field "Host").Returns := by
        rw [field_returns_iff]
        simp [hmethod]
      rw [hrest]
      constructor
      · rintro ⟨res, opened, hanswer, -⟩
        unfold listener at hanswer
        rw [if_neg hmethod, if_neg (by simp [htarget])] at hanswer
        obtain ⟨host, hhost, -⟩ := Except.bind_eq_ok.mp hanswer
        exact ⟨host, hhost⟩
      · rintro ⟨host, hhost⟩
        exact answers_of_host hmethod htarget hhost

/-- `GET / HTTP/1.0` without a host. -/
theorem answers_noHost : ¬ Answers "/srv" (fun _ => .noSuchFile)
    { method := .get, version := 10, target := "/", fields := [], keepAlive := false } ⟨[], false⟩ := by
  rintro ⟨res, opened, hanswer, -⟩
  cases hanswer

/-- Reading a request that is answered puts its response behind those that wait. -/
theorem onRead_of_answers (h : Answers docRoot openFile req { session with reading := false }) :
    ∃ res opened reading, session.onRead docRoot openFile (.request req) =
      .ok (⟨session.items ++ [res], reading⟩, opened) := by
  obtain ⟨res, opened, hanswer, -⟩ := h
  unfold Session.onRead
  dsimp only
  rw [hanswer]
  exact ⟨res, opened, _, rfl⟩

end StreamCloud.HttpServer
