import Wethands.Foundation.Regex.Greedy
import Wethands.Net.Http.HttpContext

/-!
# The grammar of request lines

The pattern reads `M W T W' V`, but both runs of whitespace may be missing, and
a target without a question mark may go on with characters of a query.
-/

namespace Wethands
namespace Net

open Foundation HttpRequest HttpContext

structure RequestLine where
  method : Method
  spaces : List Byte
  path : List Byte
  mark : List Byte
  query : List Byte
  gap : List Byte
  version : Version

namespace RequestLine

def Target (parts : RequestLine) : List Byte :=
  parts.path ++ (parts.mark ++ parts.query)

def Text (parts : RequestLine) : List Byte :=
  MethodNames parts.method ++ (parts.spaces ++ (parts.path ++ (parts.mark ++
    (parts.query ++ (parts.gap ++ VersionNames parts.version)))))

structure Matches (parts : RequestLine) : Prop where
  method : parts.method ∈ Methods
  spaces : forall b, b ∈ parts.spaces -> Pattern.IsSpace b = true
  path_ne_nil : parts.path ≠ []
  path : forall b, b ∈ parts.path -> Pattern.IsPathChar b = true
  mark : parts.mark = [] ∨ parts.mark = [63]
  query : forall b, b ∈ parts.query -> Pattern.IsQueryChar b = true
  gap : forall b, b ∈ parts.gap -> Pattern.IsSpace b = true
  version : parts.version ∈ Versions

/-- `M W T W' V`, where `T` is `P` or `P?Q`. -/
structure Grammatical (parts : RequestLine) : Prop extends Matches parts where
  spaces_ne_nil : parts.spaces ≠ []
  gap_ne_nil : parts.gap ≠ []
  no_query : parts.mark = [] -> parts.query = []

/-- The line matches in a way that the grammar does not allow. -/
def Lenient (line : List Byte) : Prop :=
  exists parts : RequestLine, parts.Matches ∧ line = parts.Text ∧
    (parts.spaces = [] ∨ parts.gap = [] ∨
      parts.mark = [] ∧
        exists b, b ∈ parts.query ∧ Pattern.IsPathChar b = false)

/-!
# Classes of characters
-/

theorem forall_byte {P : Byte -> Prop}
    (h : forall n : Fin 256, P (UInt8.ofFin n)) (b : Byte) : P b :=
  h b.toFin

theorem space_disjoint (b : Byte) (h : Pattern.IsSpace b = true) :
    Pattern.IsPathChar b = false ∧ Pattern.IsQueryChar b = false ∧
      (b == 63) = false := by
  revert b
  apply forall_byte
  decide +kernel

theorem not_space_of_path (b : Byte) (h : Pattern.IsPathChar b = true) :
    Pattern.IsSpace b = false := by
  rw [Bool.eq_false_iff]
  intro hspace
  rw [(space_disjoint b hspace).1] at h
  cases h

theorem not_space_of_query (b : Byte) (h : Pattern.IsQueryChar b = true) :
    Pattern.IsSpace b = false := by
  rw [Bool.eq_false_iff]
  intro hspace
  rw [(space_disjoint b hspace).2.1] at h
  cases h

theorem not_space_of_version {version : Version}
    (h : version ∈ Versions) : forall b, b ∈ VersionNames version ->
      Pattern.IsSpace b = false := by
  revert version
  decide +kernel

theorem not_mark {parts : RequestLine} (h : parts.Matches) :
    63 ∉ parts.path ∧ 63 ∉ parts.query := by
  constructor
  · intro hmem
    exact absurd (h.path 63 hmem) (by decide)
  · intro hmem
    exact absurd (h.query 63 hmem) (by decide)

theorem not_space_target {parts : RequestLine} (h : parts.Matches) :
    forall b, b ∈ parts.Target -> Pattern.IsSpace b = false := by
  intro b hb
  rcases List.mem_append.mp hb with hpath | hrest
  · exact not_space_of_path b (h.path b hpath)
  · rcases List.mem_append.mp hrest with hmark | hquery
    · rcases h.mark with hnone | hsome
      · rw [hnone] at hmark
        cases hmark
      · rw [hsome] at hmark
        rw [List.mem_singleton.mp hmark]
        decide
    · exact not_space_of_query b (h.query b hquery)

/-!
# What the pattern accepts
-/

theorem mem_methods_iff {text : List Byte} :
    text ∈ Pattern.Methods.Denotes <->
      exists method, method ∈ Methods ∧ text = MethodNames method := by
  constructor
  · exact mem_methods
  · intro hexists
    rcases hexists with ⟨method, hmethod, rfl⟩
    apply Regex.fullMatch_isSome.mp
    revert method
    decide +kernel

theorem mem_version_iff {text : List Byte} :
    text ∈ Pattern.Version.Denotes <->
      exists version, version ∈ Versions ∧ text = VersionNames version := by
  constructor
  · intro h
    rcases Language.mem_mul.mp h with ⟨front, hfront, _, ⟨b, hb, rfl⟩, rfl⟩
    rw [Regex.mem_denotes_word.mp hfront]
    rcases (Bool.or_eq_true _ _).mp hb with hzero | hone
    · rw [eq_of_beq hzero]
      exact ⟨Version.kHttp10, by decide, by decide +kernel⟩
    · rw [eq_of_beq hone]
      exact ⟨Version.kHttp11, by decide, by decide +kernel⟩
  · intro hsuch
    rcases hsuch with ⟨version, hversion, rfl⟩
    apply Regex.fullMatch_isSome.mp
    revert version
    decide +kernel

theorem mem_mark_iff {text : List Byte} :
    text ∈ (Regex.Opt (Regex.one (fun b : Byte => b == 63))).Denotes <->
      text = [] ∨ text = [63] := by
  constructor
  · rintro (⟨b, hb, rfl⟩ | hempty)
    · rw [eq_of_beq hb]
      exact Or.inr rfl
    · exact Or.inl ((Language.mem_one text).mp hempty)
  · rintro (rfl | rfl)
    · exact Or.inr Language.nil_mem_one
    · exact Or.inl ⟨63, rfl, rfl⟩

theorem mem_requestLine_iff {line : List Byte} :
    line ∈ Pattern.RequestLine.Denotes <->
      exists parts : RequestLine, parts.Matches ∧ line = parts.Text := by
  constructor
  · intro h
    rcases Language.mem_mul.mp h with ⟨method, hmethod, _, htarget, rfl⟩
    rcases Language.mem_mul.mp htarget with ⟨spaces, hspaces, _, hlast, rfl⟩
    rcases Language.mem_mul.mp hlast with ⟨path, hpath, _, hlast4, rfl⟩
    rcases Language.mem_mul.mp hlast4 with ⟨mark, hmark, _, hlast3, rfl⟩
    rcases Language.mem_mul.mp hlast3 with ⟨query, hquery, _, hlast2, rfl⟩
    rcases Language.mem_mul.mp hlast2 with ⟨gap, hgap, version, hversion, rfl⟩
    rcases mem_methods_iff.mp hmethod with ⟨method, hknown, rfl⟩
    rcases mem_version_iff.mp hversion with ⟨version, hlisted, rfl⟩
    rcases Regex.mem_denotes_plus_one.mp hpath with ⟨hne, hall⟩
    exact ⟨⟨method, spaces, path, mark, query, gap, version⟩, {
      method := hknown
      spaces := Regex.mem_denotes_star_one.mp hspaces
      path_ne_nil := hne
      path := hall
      mark := mem_mark_iff.mp hmark
      query := Regex.mem_denotes_star_one.mp hquery
      gap := Regex.mem_denotes_star_one.mp hgap
      version := hlisted }, rfl⟩
  · intro hexists
    rcases hexists with ⟨parts, h, rfl⟩
    apply Language.append_mem_mul (mem_methods_iff.mpr ⟨_, h.method, rfl⟩)
    apply Language.append_mem_mul (Regex.mem_denotes_star_one.mpr h.spaces)
    apply Language.append_mem_mul
      (Regex.mem_denotes_plus_one.mpr ⟨h.path_ne_nil, h.path⟩)
    apply Language.append_mem_mul (mem_mark_iff.mpr h.mark)
    apply Language.append_mem_mul (Regex.mem_denotes_star_one.mpr h.query)
    apply Language.append_mem_mul (Regex.mem_denotes_star_one.mpr h.gap)
    exact mem_version_iff.mpr ⟨_, h.version, rfl⟩

/-!
# The pieces of a line of the grammar
-/

theorem methodNames_prefix {method other : Method} {rest : List Byte}
    (hmethod : method ∈ Methods) (hother : other ∈ Methods)
    (h : MethodNames method <+: MethodNames other ++ rest) :
    method = other := by
  have hpairs : forall method, method ∈ Methods -> forall other,
      other ∈ Methods -> (MethodNames method <+: MethodNames other ∨
        MethodNames other <+: MethodNames method) -> method = other := by
    decide +kernel
  apply hpairs method hmethod other hother
  exact List.prefix_or_prefix_of_prefix h (List.prefix_append _ _)

theorem prefers_methods {method : Method} (hmethod : method ∈ Methods)
    {m : Matching Byte} {rest : List Byte}
    (hrest : m.rest = MethodNames method ++ rest) :
    Regex.Prefers Pattern.Methods m { m with rest := rest } := by
  rcases List.append_of_mem hmethod with ⟨before, after, hsplit⟩
  have hnodup : Methods.Nodup := by decide
  have hnames : Regex.Word (Ascii "GET") :: [Regex.Word (Ascii "POST"),
      Regex.Word (Ascii "HEAD"), Regex.Word (Ascii "PUT"),
      Regex.Word (Ascii "DELETE")] =
        Methods.map (fun method => Regex.Word (MethodNames method)) := rfl
  rw [hsplit, List.map_append, List.map_cons] at hnames
  apply Regex.prefers_choice hnames
  · intro r hr
    rcases List.mem_map.mp hr with ⟨other, hother, rfl⟩
    apply Regex.results_word_eq_nil
    intro hprefix
    rw [hrest] at hprefix
    have hmem : other ∈ Methods := by
      rw [hsplit]
      exact List.mem_append_left _ hother
    have hsame := methodNames_prefix hmem hmethod hprefix
    rw [hsplit, List.nodup_append] at hnodup
    exact hnodup.2.2 other hother method List.mem_cons_self hsame
  · exact Regex.prefers_word hrest

theorem prefers_version {version : Version} (hversion : version ∈ Versions)
    {m : Matching Byte} (hrest : m.rest = VersionNames version) :
    Regex.Prefers Pattern.Version m { m with rest := [] } := by
  have hdigits : forall version, version ∈ Versions ->
      exists b, (b == 48 || b == 49) = true ∧
        VersionNames version = Ascii "HTTP/1." ++ [b] := by
    intro version hversion
    rcases List.mem_cons.mp hversion with rfl | hother
    · exact ⟨48, rfl, by decide +kernel⟩
    · rw [List.mem_singleton.mp hother]
      exact ⟨49, rfl, by decide +kernel⟩
  rcases hdigits version hversion with ⟨b, hb, hname⟩
  rw [hname] at hrest
  apply Regex.prefers_seq (Regex.prefers_word hrest)
  exact Regex.prefers_one rfl hb

section Grammatical

variable {parts : RequestLine}

theorem stops_gap (h : parts.Grammatical) {p : Byte -> Bool}
    (hp : forall b, Pattern.IsSpace b = true -> p b = false) :
    Stops p (parts.gap ++ VersionNames parts.version) :=
  stops_append (fun b hb => hp b (h.gap b hb))
    (fun hnil => absurd hnil h.gap_ne_nil)

theorem stops_version (h : parts.Matches) :
    Stops Pattern.IsSpace (VersionNames parts.version) := by
  rw [← List.append_nil (VersionNames parts.version)]
  exact stops_append (not_space_of_version h.version) (fun _ => stops_nil _)

theorem stops_path (h : parts.Grammatical) :
    Stops Pattern.IsPathChar (parts.mark ++
      (parts.query ++ (parts.gap ++ VersionNames parts.version))) := by
  rcases h.mark with hnone | hsome
  · rw [hnone, h.no_query hnone]
    exact stops_gap h (fun b hb => (space_disjoint b hb).1)
  · rw [hsome]
    intro b hb
    cases hb
    decide

theorem stops_spaces (h : parts.Matches) (rest : List Byte) :
    Stops Pattern.IsSpace (parts.path ++ rest) :=
  stops_append (fun b hb => not_space_of_path b (h.path b hb))
    (fun hnil => absurd hnil h.path_ne_nil)

theorem prefers_mark (h : parts.Grammatical) {m : Matching Byte}
    (hrest : m.rest = parts.mark ++
      (parts.query ++ (parts.gap ++ VersionNames parts.version))) :
    Regex.Prefers (Regex.Opt (Regex.one (fun b : Byte => b == 63))) m
      { m with rest :=
          parts.query ++ (parts.gap ++ VersionNames parts.version) } := by
  rcases h.mark with hnone | hsome
  · rw [hnone, List.nil_append] at hrest
    rw [← hrest]
    apply Regex.prefers_opt_empty
    apply Regex.results_one_of_stops
    rw [hrest, h.no_query hnone]
    exact stops_gap h (fun b hb => (space_disjoint b hb).2.2)
  · rw [hsome] at hrest
    exact Regex.prefers_alt_left (Regex.prefers_one hrest rfl)

def Captured (parts : RequestLine) (captures : Nat -> List Byte) : Prop :=
  captures 1 = MethodNames parts.method ∧ captures 2 = parts.path ∧
    captures 3 = parts.query ∧ captures 4 = VersionNames parts.version

/-- Every piece of a line of the grammar is the longest one that there is. -/
theorem fullMatch_of_grammatical (h : parts.Grammatical) :
    exists captures, Pattern.RequestLine.FullMatch parts.Text = some captures ∧
      parts.Captured captures := by
  have hmethod : Regex.Prefers (Regex.group 1 Pattern.Methods)
      (Matching.Start parts.Text) _ :=
    Regex.prefers_group (prefers_methods h.method rfl) rfl
  have hquery : Stops Pattern.IsQueryChar
      (parts.gap ++ VersionNames parts.version) :=
    stops_gap h (fun b hb => (space_disjoint b hb).2.1)
  have hmatch : exists last, Regex.Prefers Pattern.RequestLine
      (Matching.Start parts.Text) last ∧ last.rest = [] ∧
        parts.Captured last.captures :=
    ⟨_, Regex.prefers_seq hmethod
      (Regex.prefers_seq
        (Regex.prefers_star rfl h.spaces (stops_spaces h.toMatches _))
      (Regex.prefers_seq (Regex.prefers_group
        (Regex.prefers_plus h.path_ne_nil rfl h.path (stops_path h)) rfl)
      (Regex.prefers_seq (prefers_mark h rfl)
      (Regex.prefers_seq (Regex.prefers_group
        (Regex.prefers_star rfl h.query hquery) rfl)
      (Regex.prefers_seq
        (Regex.prefers_star rfl h.gap (stops_version h.toMatches))
      (Regex.prefers_group (prefers_version h.version rfl)
        (List.append_nil _).symm)))))), rfl, rfl, rfl, rfl, rfl⟩
  rcases hmatch with ⟨last, hprefers, hend, hcaptured⟩
  exact ⟨_, Regex.fullMatch_of_prefers hprefers hend, hcaptured⟩

/-!
# Two readings of one line
-/

theorem target_of_same_text {other : RequestLine} (h : parts.Matches)
    (hother : other.Matches) (htext : parts.Text = other.Text) :
    parts.spaces = other.spaces ∧
      parts.Target ++ (parts.gap ++ VersionNames parts.version) =
        other.Target ++ (other.gap ++ VersionNames other.version) := by
  have hprefix : MethodNames parts.method <+: other.Text := by
    rw [← htext]
    exact List.prefix_append _ _
  have hmethod : parts.method = other.method :=
    methodNames_prefix h.method hother.method hprefix
  rw [Text, Text, hmethod] at htext
  have hrest := List.append_cancel_left htext
  rcases run_unique h.spaces (stops_spaces h _) hother.spaces
    (stops_spaces hother _) hrest with ⟨hspaces, htarget⟩
  refine ⟨hspaces, ?_⟩
  rw [Target, Target]
  simpa only [List.append_assoc] using htarget

theorem not_space_behind_target (h : parts.Matches) (hnil : parts.gap = []) :
    forall b, b ∈ parts.Target ++ (parts.gap ++ VersionNames parts.version) ->
      Pattern.IsSpace b = false := by
  intro b hb
  rw [hnil, List.nil_append] at hb
  rcases List.mem_append.mp hb with htarget | hversion
  · exact not_space_target h b htarget
  · exact not_space_of_version h.version b hversion

theorem not_lenient_of_grammatical (h : parts.Grammatical) :
    ¬Lenient parts.Text := by
  intro hexists
  rcases hexists with ⟨other, hother, htext, hdefect⟩
  rcases target_of_same_text h.toMatches hother htext with ⟨hspaces, hrest⟩
  have hgap : other.gap ≠ [] := by
    intro hnil
    rcases List.exists_mem_of_ne_nil _ h.gap_ne_nil with ⟨b, hb⟩
    have hnot := not_space_behind_target hother hnil b (by
      rw [← hrest]
      exact List.mem_append_right _ (List.mem_append_left _ hb))
    rw [h.gap b hb] at hnot
    cases hnot
  have hstops (line : RequestLine) (hline : line.Matches)
      (hne : line.gap ≠ []) : Stops (fun b => !Pattern.IsSpace b)
        (line.gap ++ VersionNames line.version) :=
    stops_append (fun b hb => by simp [hline.gap b hb])
      (fun hnil => absurd hnil hne)
  have htarget : parts.Target = other.Target :=
    (run_unique
      (fun b hb => by simp [not_space_target h.toMatches b hb])
      (hstops parts h.toMatches h.gap_ne_nil)
      (fun b hb => by simp [not_space_target hother b hb])
      (hstops other hother hgap) hrest).1
  rcases hdefect with hnil | hnil | ⟨hnone, b, hb, hclass⟩
  · exact h.spaces_ne_nil (hspaces.trans hnil)
  · exact hgap hnil
  · -- Without a question mark the whole target is the path.
    have hmark : 63 ∉ other.Target := by
      rw [Target, hnone, List.nil_append, List.mem_append]
      exact not_or.mpr (not_mark hother)
    rcases h.mark with hnomark | hmarked
    · have hmem : b ∈ parts.Target := by
        rw [htarget, Target]
        exact List.mem_append_right _ (List.mem_append_right _ hb)
      rw [Target, hnomark, h.no_query hnomark, List.append_nil,
        List.append_nil] at hmem
      rw [h.path b hmem] at hclass
      cases hclass
    · apply hmark
      rw [← htarget, Target, hmarked]
      simp

theorem exists_grammatical (h : parts.Matches)
    (hlenient : ¬Lenient parts.Text) :
    exists other : RequestLine, other.Grammatical ∧
      parts.Text = other.Text := by
  have hspaces : parts.spaces ≠ [] :=
    fun hnil => hlenient ⟨parts, h, rfl, Or.inl hnil⟩
  have hgap : parts.gap ≠ [] :=
    fun hnil => hlenient ⟨parts, h, rfl, Or.inr (Or.inl hnil)⟩
  rcases h.mark with hnone | hsome
  · have hquery : forall b, b ∈ parts.query ->
        Pattern.IsPathChar b = true := by
      intro b hb
      rw [← Bool.not_eq_false]
      exact fun hclass =>
        hlenient ⟨parts, h, rfl, Or.inr (Or.inr ⟨hnone, b, hb, hclass⟩)⟩
    refine ⟨{ parts with path := parts.path ++ parts.query, query := [] },
      ?_, ?_⟩
    · exact {
        h with
        path_ne_nil := List.append_ne_nil_of_left_ne_nil h.path_ne_nil _
        path := fun b hb => (List.mem_append.mp hb).elim (h.path b) (hquery b)
        query := fun b hb => absurd hb List.not_mem_nil
        spaces_ne_nil := hspaces
        gap_ne_nil := hgap
        no_query := fun _ => rfl }
    · simp [Text, hnone]
  · refine ⟨parts, { h with
      spaces_ne_nil := hspaces
      gap_ne_nil := hgap
      no_query := ?_ }, rfl⟩
    rw [hsome]
    exact fun hnil => absurd hnil (List.cons_ne_nil _ _)

end Grammatical
end RequestLine

/-!
# The call
-/

namespace HttpContext

def RecoveredTarget (line : List Byte) (request : HttpRequest) : List Byte :=
  if 63 ∈ line then request.path_ ++ 63 :: request.query_ else request.path_

structure Recorded (parts : RequestLine) (request : HttpRequest) : Prop where
  method : request.method_ = parts.method
  path : request.path_ = parts.path
  query : request.query_ = parts.query
  version : request.version_ = parts.version
  target : RecoveredTarget parts.Text request = parts.Target

def FollowsGrammar (context : HttpContext) (line : List Byte) : Prop :=
  exists ok next, context.ParseRequestLine line = Except.ok (ok, next) ∧
    (ok = true <->
      exists parts : RequestLine, parts.Grammatical ∧ line = parts.Text) ∧
    forall parts : RequestLine, parts.Grammatical -> line = parts.Text ->
      Recorded parts next.request_

theorem find_method {method : Method} (h : method ∈ Methods) :
    Methods.find? (fun other => MethodNames method = MethodNames other) =
      some method := by
  revert method
  decide +kernel

theorem find_version {version : Version} (h : version ∈ Versions) :
    Versions.find? (fun other => VersionNames version = VersionNames other) =
      some version := by
  revert version
  decide +kernel

theorem mem_text_iff {parts : RequestLine} (h : parts.Matches) :
    63 ∈ parts.Text <-> parts.mark = [63] := by
  have hmethod : forall method, method ∈ Methods ->
      63 ∉ MethodNames method := by decide +kernel
  have hversion : forall version, version ∈ Versions ->
      63 ∉ VersionNames version := by decide +kernel
  have hspace (b : Byte) (hb : Pattern.IsSpace b = true) : b ≠ 63 := by
    simpa using (RequestLine.space_disjoint b hb).2.2
  rcases RequestLine.not_mark h with ⟨hpath, hquery⟩
  have hspaces : 63 ∉ parts.spaces := fun hb => hspace 63 (h.spaces 63 hb) rfl
  have hgap : 63 ∉ parts.gap := fun hb => hspace 63 (h.gap 63 hb) rfl
  rw [RequestLine.Text]
  rcases h.mark with hnone | hsome
  · simp [hnone, hmethod _ h.method, hversion _ h.version, hpath, hquery,
      hspaces, hgap]
  · simp [hsome]

theorem recoveredTarget_eq {parts : RequestLine} {request : HttpRequest}
    (h : parts.Grammatical) (hpath : request.path_ = parts.path)
    (hquery : request.query_ = parts.query) :
    RecoveredTarget parts.Text request = parts.Target := by
  rw [RecoveredTarget, hpath, hquery, RequestLine.Target]
  rcases h.mark with hnone | hsome
  · have hno : 63 ∉ parts.Text := by
      rw [mem_text_iff h.toMatches, hnone]
      exact (List.cons_ne_nil _ _).symm
    rw [if_neg hno, hnone, h.no_query hnone, List.append_nil, List.append_nil]
  · rw [if_pos ((mem_text_iff h.toMatches).mpr hsome), hsome]
    rfl

def Filled (request : HttpRequest) (captures : Nat -> List Byte) :
    HttpRequest :=
  { request with
    method_ :=
      match Methods.find? (fun method => captures 1 = MethodNames method) with
      | some method => method
      | none => request.method_
    path_ := captures 2
    query_ := captures 3
    version_ :=
      match Versions.find?
        (fun version => captures 4 = VersionNames version) with
      | some version => version
      | none => request.version_ }

theorem parseRequestLine_of_match {context : HttpContext} {line : List Byte}
    {captures : Nat -> List Byte}
    (hmethod : context.request_.method_ = Method.kInvalid)
    (hversion : context.request_.version_ = Version.kUnknown)
    (hmatch : Pattern.RequestLine.FullMatch line = some captures) :
    context.ParseRequestLine line = Except.ok (true,
      { context with request_ := Filled context.request_ captures }) := by
  rw [ParseRequestLine, hmatch]
  simp only [SetMethod, if_pos hmethod, SetVersion, SetPath, SetQuery]
  show ((if context.request_.version_ = _ then _ else _ :
    Outcome (Bool × HttpRequest)) >>= _) = _
  rw [if_pos hversion]
  rfl

theorem recorded_filled {parts : RequestLine} {request : HttpRequest}
    {captures : Nat -> List Byte} (h : parts.Grammatical)
    (hcaptured : parts.Captured captures) :
    Recorded parts (Filled request captures) := by
  rcases hcaptured with ⟨hone, htwo, hthree, hfour⟩
  exact {
    method := by simp only [Filled, hone, find_method h.method]
    path := htwo
    query := hthree
    version := by simp only [Filled, hfour, find_version h.version]
    target := recoveredTarget_eq h htwo hthree }

theorem followsGrammar_of_not_lenient {context : HttpContext}
    {line : List Byte}
    (hmethod : context.request_.method_ = Method.kInvalid)
    (hversion : context.request_.version_ = Version.kUnknown)
    (hlenient : ¬RequestLine.Lenient line) : FollowsGrammar context line := by
  cases hmatch : Pattern.RequestLine.FullMatch line with
  | none =>
      have hno (parts : RequestLine) (h : parts.Grammatical) :
          line ≠ parts.Text := by
        rintro rfl
        rcases RequestLine.fullMatch_of_grammatical h with ⟨_, hsome, _⟩
        rw [hmatch] at hsome
        cases hsome
      refine ⟨false, context, ?_, ?_, fun parts h hline =>
        absurd hline (hno parts h)⟩
      · rw [ParseRequestLine, hmatch]
      · refine iff_of_false Bool.false_ne_true ?_
        intro hexists
        rcases hexists with ⟨parts, h, hline⟩
        exact hno parts h hline
  | some captures =>
      refine ⟨true, _, parseRequestLine_of_match hmethod hversion hmatch,
        ?_, ?_⟩
      · refine iff_of_true rfl ?_
        have hdenotes := Regex.fullMatch_isSome.mp (by rw [hmatch]; rfl)
        rcases RequestLine.mem_requestLine_iff.mp hdenotes with
          ⟨parts, h, rfl⟩
        exact RequestLine.exists_grammatical h hlenient
      · rintro parts h rfl
        apply recorded_filled h
        rcases RequestLine.fullMatch_of_grammatical h with
          ⟨captures', hmatch', hcaptured⟩
        cases hmatch.symm.trans hmatch'
        exact hcaptured

theorem not_followsGrammar_of_lenient {context : HttpContext}
    {line : List Byte}
    (hmethod : context.request_.method_ = Method.kInvalid)
    (hversion : context.request_.version_ = Version.kUnknown)
    (hlenient : RequestLine.Lenient line) :
    ¬FollowsGrammar context line := by
  intro hsuch
  rcases hsuch with ⟨ok, next, hparse, hiff, _⟩
  have hdenotes : line ∈ Pattern.RequestLine.Denotes := by
    rcases hlenient with ⟨parts, h, hline, _⟩
    exact RequestLine.mem_requestLine_iff.mpr ⟨parts, h, hline⟩
  rcases Option.isSome_iff_exists.mp (Regex.fullMatch_isSome.mpr hdenotes) with
    ⟨captures, hmatch⟩
  have haccepted := parseRequestLine_of_match hmethod hversion hmatch
  cases hparse.symm.trans haccepted
  rcases hiff.mp rfl with ⟨parts, hgrammatical, rfl⟩
  exact RequestLine.not_lenient_of_grammatical hgrammatical hlenient

/--
A line is treated as the grammar says exactly when it does not match with a run
of whitespace missing, or with other characters than those of a path in a
target that has no question mark.
-/
theorem followsGrammar_iff {context : HttpContext}
    (hmethod : context.request_.method_ = Method.kInvalid)
    (hversion : context.request_.version_ = Version.kUnknown)
    (line : List Byte) :
    FollowsGrammar context line <-> ¬RequestLine.Lenient line := by
  constructor
  · intro hfollows hlenient
    exact not_followsGrammar_of_lenient hmethod hversion hlenient hfollows
  · exact followsGrammar_of_not_lenient hmethod hversion

theorem lenient_hyphen :
    RequestLine.Lenient (Ascii "GET /test/hi-there.txt HTTP/1.1") := by
  refine ⟨⟨Method.kGet, Ascii " ", Ascii "/test/hi", [], Ascii "-there.txt",
    Ascii " ", Version.kHttp11⟩, ?_, by decide +kernel, ?_⟩
  · constructor <;> decide +kernel
  · exact Or.inr (Or.inr ⟨rfl, 45, by decide +kernel, by decide⟩)

theorem followsGrammar_counterexample :
    ¬FollowsGrammar New (Ascii "GET /test/hi-there.txt HTTP/1.1") :=
  not_followsGrammar_of_lenient rfl rfl lenient_hyphen

theorem followsGrammar_of_query :
    FollowsGrammar New (Ascii "GET /a?b=1 HTTP/1.1") := by
  let parts : RequestLine := ⟨Method.kGet, Ascii " ", Ascii "/a", [63],
    Ascii "b=1", Ascii " ", Version.kHttp11⟩
  have hparts : parts.Grammatical := {
    method := by decide
    spaces := by decide +kernel
    path_ne_nil := by decide +kernel
    path := by decide +kernel
    mark := Or.inr rfl
    query := by decide +kernel
    gap := by decide +kernel
    version := by decide
    spaces_ne_nil := by decide +kernel
    gap_ne_nil := by decide +kernel
    no_query := by decide }
  have hline : Ascii "GET /a?b=1 HTTP/1.1" = parts.Text := by decide +kernel
  rw [hline]
  exact (followsGrammar_iff rfl rfl _).mpr
    (RequestLine.not_lenient_of_grammatical hparts)

end HttpContext
end Net
end Wethands
