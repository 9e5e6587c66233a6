import SchemaLedger.Proofs.Json.Numeral
import SchemaLedger.Proofs.Url.Path
import SchemaLedger.Registry.Client

namespace SchemaLedger

open Url (IsPlain IsOneSegment pathText pathText_cons pathText_nil piece opened push
  withoutLastSlash)

namespace Query

/-- The part of a registry in which a call is answered. -/
def kind : Query → String
  | subjects | latest _ | version _ _ => "subjects"
  | config _ => "config"
  | mode _ => "mode"

/-- What a call asks for of its subject. -/
def selector : Query → List String
  | latest _ => ["versions", "latest"]
  | version _ number => ["versions", toString number.toNat]
  | subjects | config _ | mode _ => []

/-- The path of a call below the registry, with a segment in the place of its subject. -/
def route (segment : List Char) : Query → List Char
  | subjects => pathText ["subjects".toList]
  | latest _ =>
    pathText ["subjects".toList, segment, "versions".toList, "latest".toList]
  | version _ number =>
    pathText ["subjects".toList, segment, "versions".toList, (toString number.toNat).toList]
  | config _ => pathText ["config".toList, segment]
  | mode _ => pathText ["mode".toList, segment]

variable {query other : Query} {subject : String}

theorem segments_eq (query : Query) :
    query.segments = query.kind :: (query.subject?.toList ++ query.selector) := by
  cases query <;> rfl

theorem isDigits_number (number : Nat) : IsDigits (toString number).toList := by
  rw [Nat.toString_eq_repr, Nat.repr, String.toList_ofList]
  exact isDigits_toDigits number

theorem number_injective {a b : Nat} (same : toString a = toString b) : a = b := by
  have digits := congrArg String.toList same
  rw [Nat.toString_eq_repr, Nat.toString_eq_repr, Nat.repr, Nat.repr, String.toList_ofList,
    String.toList_ofList] at digits
  have read := congrArg (Nat.ofDigitChars 10 · 0) digits
  rwa [Nat.ofDigitChars_ten_toDigits, Nat.ofDigitChars_ten_toDigits] at read

theorem plain_number (number : Nat) : IsPlain (toString number) := by
  have digits := (isDigits_number number).2
  refine ⟨fun dot => ?_, fun dots => ?_, fun c present => ?_⟩
  · exact absurd (digits '.' (by simp [dot])) (by decide)
  · exact absurd (digits '.' (by simp [dots])) (by decide)
  · rw [← Bool.not_eq_true]
    intro ignored
    have isDigit := digits c present
    simp only [Url.isIgnored, Bool.or_eq_true, beq_iff_eq] at ignored
    rcases ignored with (rfl | rfl) | rfl <;> exact absurd isDigit (by decide)

theorem plain_kind (query : Query) : IsPlain query.kind := by
  cases query <;> (rw [kind]; decide)

theorem plain_selector (query : Query) : ∀ text ∈ query.selector, IsPlain text := by
  cases query with
  | version _ number =>
    intro text member
    rcases List.mem_cons.1 member with rfl | isNumber
    · decide
    · exact List.mem_singleton.1 isNumber ▸ plain_number _
  | latest => rw [selector]; decide
  | _ => exact fun _ member => absurd member List.not_mem_nil

theorem route_eq (about : query.subject? = some subject) (segment : List Char) :
    query.route segment =
      pathText (query.kind.toList :: segment :: query.selector.map String.toList) := by
  cases query with
  | subjects => cases about
  | _ => rfl

theorem kind_ne_empty (query : Query) : query.kind.toList ≠ [] := by
  cases query <;> simp [kind]

theorem segments_injective {query other : Query} (same : query.segments = other.segments) :
    query = other := by
  have notLatest (number : UInt32) : toString number.toNat ≠ "latest" := by
    intro same
    have digits := isDigits_number number.toNat
    rw [same] at digits
    exact absurd digits (by decide)
  cases query <;> cases other <;>
    simp only [segments, List.cons.injEq, String.reduceEq, and_true, false_and, and_false, true_and,
      reduceCtorEq] at same
  case subjects.subjects => rfl
  case latest.latest => rw [same]
  case latest.version number => exact absurd same.2.symm (notLatest number)
  case version.latest number _ => exact absurd same.2 (notLatest number)
  case version.version number _ number' =>
    rw [same.1, UInt32.toNat_inj.1 (number_injective same.2)]
  case config.config => rw [same]
  case mode.mode => rw [same]

theorem piece_kind (query : Query) : piece query.kind = query.kind.toList := by
  cases query <;> (rw [kind]; decide)

theorem piece_number (number : Nat) : piece (toString number) = (toString number).toList := by
  refine Percent.encode_of_free fun c present => ?_
  have free : ∀ n < 58, 48 ≤ n →
      (Char.ofNat n).toNat < 0x80 ∧ Percent.inSegment (Char.ofNat n) = false := by
    decide
  have isDigit : 48 ≤ c.toNat ∧ c.toNat ≤ 57 :=
    Char.isDigit_iff_toNat.1 ((isDigits_number number).2 c present)
  have found := free c.toNat (by omega) isDigit.1
  rwa [Char.ofNat_toNat] at found

theorem piece_selector (query : Query) :
    query.selector.map piece = query.selector.map String.toList := by
  cases query with
  | version _ number =>
    have isWord : piece "versions" = "versions".toList := by decide
    rw [selector, List.map_cons, List.map_cons, List.map_cons, List.map_cons, isWord,
      piece_number, List.map_nil, List.map_nil]
  | latest => rw [selector]; decide
  | _ => rfl

end Query

variable {client : Client} {query other : Query} {subject : String}

namespace Client

/-- The segments in front of those of the registry. -/
def front (client : Client) : List (List Char) :=
  opened (withoutLastSlash client.base.path)

theorem path_request (client : Client) (query : Query) :
    (client.request query).url.path =
      query.segments.foldl push (withoutLastSlash client.base.path) := by
  cases query <;> rfl

theorem path_of_subject (client : Client) (about : query.subject? = some subject) :
    (client.request query).url.path =
      query.selector.foldl push (push (client.front ++ [query.kind.toList]) subject) := by
  rw [path_request, query.segments_eq, about, List.foldl_cons, Url.push_plain query.plain_kind,
    query.piece_kind]
  rfl

theorem front_ne (client : Client) (query : Query) :
    client.front ++ [query.kind.toList] ≠ [[]] := by
  intro same
  have last := congrArg List.getLast? same
  rw [List.getLast?_concat] at last
  exact query.kind_ne_empty (Option.some.inj last)

/-- With plain subjects every call has a path with a segment for each of its texts. -/
theorem path_of_plain (client : Client) (plain : ∀ subject ∈ query.subject?, IsPlain subject) :
    (client.request query).url.path = client.front ++ query.segments.map piece := by
  have others : ∀ text ∈ query.subject?.toList ++ query.selector, IsPlain text := by
    intro text member
    rcases List.mem_append.1 member with isSubject | inSelector
    · exact plain text (Option.mem_toList.1 isSubject)
    · exact query.plain_selector text inSelector
  rw [path_request, query.segments_eq, List.foldl_cons, Url.push_plain query.plain_kind,
    query.piece_kind, ← front, Url.foldl_push others (by simp) (client.front_ne query),
    List.map_cons, query.piece_kind, List.append_assoc, List.singleton_append]

/-- A call is made at the address that the registry has for its subject: behind the stem its path
has the subject as one segment, which reads back as the subject. -/
def Addresses (client : Client) (query : Query) (subject : String) : Prop :=
  ∃ segment, IsOneSegment segment ∧ Percent.decode segment = Utf8.encode subject ∧
    (client.request query).url.renderPath = client.base.stem ++ query.route segment

variable (clear : ∀ segment ∈ client.base.path, '/' ∉ segment)

include clear in
theorem addresses_of_plain (about : query.subject? = some subject) (plain : IsPlain subject) :
    client.Addresses query subject := by
  have allPlain : ∀ text ∈ query.subject?, IsPlain text := by
    rintro text isSubject
    rwa [Option.some.inj (isSubject.symm.trans about)]
  refine ⟨piece subject, Url.isOneSegment_piece subject, Url.decode_piece subject, ?_⟩
  rw [Url.renderPath_eq, client.path_of_plain allPlain, Url.pathText_append, front,
    Url.pathText_opened clear, Query.route_eq about, query.segments_eq, about, List.map_cons,
    query.piece_kind, Option.toList_some, List.singleton_append, List.map_cons,
    query.piece_selector]

include clear in
/-- A subject that is not plain is missing from the path, or another one stands in its place. -/
theorem plain_of_addresses (about : query.subject? = some subject)
    (addresses : client.Addresses query subject) : IsPlain subject := by
  obtain ⟨segment, -, reads, path⟩ := addresses
  by_contra notPlain
  rw [Url.renderPath_eq, client.path_of_subject about, Query.route_eq about,
    ← Url.pathText_opened clear, ← front, ← query.piece_selector] at path
  -- whatever shortens the path leaves no room for the segment
  have room (short : List (List Char))
      (shorter : (pathText short).length ≤
        (pathText client.front).length + query.kind.toList.length + 1)
      (same : pathText (query.selector.foldl push short) =
        pathText client.front ++
          pathText (query.kind.toList :: segment :: query.selector.map piece)) : False := by
    have bound := Url.length_foldl_push query.plain_selector short
    rw [same] at bound
    simp only [pathText_cons, List.length_append, List.length_cons] at bound
    omega
  rcases Url.push_cases (client.front_ne query) notPlain with kept | taken | ⟨other, stands, ne⟩
  · rw [kept] at path
    refine room _ ?_ path
    simp only [Url.pathText_append, pathText_cons, pathText_nil, List.length_append,
      List.length_cons, List.append_nil]
    omega
  · rw [taken, List.dropLast_concat] at path
    refine room _ ?_ path
    simp only [Url.pathText_append, pathText_cons, pathText_nil, List.length_append,
      List.length_cons, List.append_nil, List.length_nil]
    omega
  · have isOpen : client.front ++ [query.kind.toList] ++ [piece other] ≠ [[]] := fun same => by
      simpa using congrArg List.length same
    rw [stands, Url.foldl_push query.plain_selector (by simp) isOpen] at path
    simp only [Url.pathText_append, pathText_cons, List.append_assoc, List.nil_append,
      List.cons_append, List.append_cancel_left_eq, List.cons.injEq, true_and,
      List.append_cancel_right_eq] at path
    rw [← path, Url.decode_piece] at reads
    exact ne (Utf8.encode_injective reads)

/-- Where the host is reached that all requests of a client go to. -/
def origin (client : Client) : String :=
  let port := match client.base.port with
    | none => []
    | some port => ':' :: (toString port).toList
  client.base.scheme ++ "://" ++ String.ofList (client.base.host ++ port)

theorem render_request (client : Client) (query : Query) :
    (client.request query).url.render = client.origin ++ (client.request query).url.target := by
  have written : (client.request query).url.render =
      client.origin ++ (client.request query).url.target ++ String.ofList [] := by
    cases query <;> rfl
  rw [written, String.ofList_nil, String.append_empty]

theorem renderQuery_cases (url : Url) :
    url.renderQuery = [] ∨ ∃ rest, url.renderQuery = '?' :: rest := by
  rw [Url.renderQuery]
  split
  · exact .inl rfl
  · exact .inr ⟨_, rfl⟩

theorem query_eq_of_render {query other : Query}
    (plain : ∀ subject ∈ query.subject?, IsPlain subject)
    (plainOther : ∀ subject ∈ other.subject?, IsPlain subject)
    (same : (client.request query).url.render = (client.request other).url.render) :
    query = other := by
  have target := congrArg String.toList same
  rw [render_request, render_request, String.toList_append, String.toList_append,
    List.append_cancel_left_eq, Url.target, Url.target, String.toList_ofList, String.toList_ofList,
    Url.renderPath_eq, Url.renderPath_eq, client.path_of_plain plain,
    client.path_of_plain plainOther, Url.pathText_append, Url.pathText_append, List.append_assoc,
    List.append_assoc] at target
  have pieces (query : Query) : ∀ segment ∈ query.segments.map piece, IsOneSegment segment := by
    intro segment member
    obtain ⟨text, -, rfl⟩ := List.mem_map.1 member
    exact Url.isOneSegment_piece text
  have segments := Url.pathText_append_inj (pieces query) (pieces other) (renderQuery_cases _)
    (renderQuery_cases _) (List.append_cancel_left target)
  have texts := List.map_injective_iff.2 (fun _ _ => Url.piece_injective) segments
  exact Query.segments_injective texts

theorem parse_of_ofSettings {settings : ClientSettings}
    (made : Client.ofSettings settings = .ok client) :
    Url.parse settings.baseUrl = .ok client.base := by
  rw [ofSettings] at made
  cases read : Url.parse settings.baseUrl with
  | error fault =>
    rw [read] at made
    cases fault <;> cases made
  | ok base =>
    rw [read] at made
    cases known : credentials? settings.username settings.password with
    | error => rw [known] at made; cases made
    | ok credentials =>
      rw [known] at made
      by_cases empty : settings.maxResponseBytes = 0
      · cases (if_pos empty).symm.trans made
      have agent := (if_neg empty).symm.trans made
      by_cases isText : isHeaderText settings.userAgent = true
      · obtain rfl := Except.ok.inj ((if_pos isText).symm.trans agent)
        rfl
      · cases (if_neg isText).symm.trans agent

end Client

/-- A client asks for a subject at the address that the registry has for it exactly if the subject
is plain: not a dot or two dots, and without the tabs and line breaks that do not count in
addresses. No two calls about plain subjects have one address. -/
theorem plain_subjects_are_addressed {settings : ClientSettings} {client : Client}
    (made : Client.ofSettings settings = .ok client) :
    (∀ (query : Query) (subject : String), query.subject? = some subject →
      (client.Addresses query subject ↔ IsPlain subject)) ∧
    ∀ query other : Query, (∀ subject ∈ query.subject?, IsPlain subject) →
      (∀ subject ∈ other.subject?, IsPlain subject) → query ≠ other →
      (client.request query).url.render ≠ (client.request other).url.render := by
  have clear := Url.clear_of_parse (Client.parse_of_ofSettings made)
  refine ⟨fun query subject about => ⟨?_, ?_⟩, fun query other plain plainOther different => ?_⟩
  · exact Client.plain_of_addresses clear about
  · exact Client.addresses_of_plain clear about
  · exact fun same => different (Client.query_eq_of_render plain plainOther same)

def catalogClient : Client where
  base := ⟨"http", [], [], "registry".toList, none, ["catalog".toList, []], none, none⟩
  credentials := none
  userAgent := defaultUserAgent
  maxResponseBytes := defaultMaxResponseBytes

/-- A slash in a subject is part of its segment, and the one at the end of the base address goes. -/
theorem plain_subjects_are_addressed_of_catalogClient :
    Client.ofSettings (.standard "http://registry/catalog/") = .ok catalogClient ∧
      catalogClient.Addresses (.latest "team/orders") "team/orders" ∧
      (catalogClient.request (.version "orders" 1)).url.render ≠
        (catalogClient.request (.version "orders" 2)).url.render := by
  have made : Client.ofSettings (.standard "http://registry/catalog/") = .ok catalogClient := by
    decide +kernel
  obtain ⟨addressed, apart⟩ := plain_subjects_are_addressed made
  refine ⟨made, (addressed (.latest "team/orders") "team/orders" rfl).2 (by decide), ?_⟩
  refine apart _ _ ?_ ?_ (by decide) <;>
    · rintro subject isSubject
      obtain rfl := Option.some.inj isSubject
      decide

/-- Subjects that are not plain are asked for under the addresses of others, and can even leave the
part of the registry that holds subjects. -/
theorem tabs_and_dots_are_lost :
    Client.ofSettings (.standard "http://registry/catalog/") = .ok catalogClient ∧
      ¬catalogClient.Addresses (.latest "a\tb") "a\tb" ∧
      (catalogClient.request (.latest "a\tb")).url = (catalogClient.request (.latest "ab")).url ∧
      (catalogClient.request (.latest ".")).url = (catalogClient.request (.latest "..")).url ∧
      (catalogClient.request (.latest ".\t.")).url.target = "/catalog//versions/latest" := by
  refine ⟨by decide +kernel, fun addresses => ?_, by decide +kernel, by decide +kernel,
    by decide +kernel⟩
  have clear : ∀ segment ∈ catalogClient.base.path, '/' ∉ segment := by decide
  exact absurd (Client.plain_of_addresses clear rfl addresses) (by decide)

end SchemaLedger
