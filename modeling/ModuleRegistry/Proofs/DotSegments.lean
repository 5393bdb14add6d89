import Mathlib.Tactic.ByContra
import ModuleRegistry.Proofs.Addresses

/-!
# Dot segments

Whoever resolves an address first removes the dot segments of its path: a segment `.` goes, and a
segment `..` goes together with the segment before it (RFC 3986, section 5.2.4).  A path that names a
resource has to survive this unchanged, or the request is about another resource.

`DotSegments.step` is one step of that rewriting, on what is left of the path and what has been put
out so far, and `DotSegments.remove` repeats it until nothing is left.  Percent-encoding does not help
against it: a dot is unreserved and stands for itself, so the identifiers `.` and `..` become dot
segments.  No other identifier does.

Main statements:

* `path_survives_iff`: the path of an operation is left alone exactly if neither the device nor the
  module is called `.` or `..`; and it is then found whole at the end of the resolved path, whatever
  path the base address begins with;
* `path_escapes`: the deletion of the module `..` is resolved to the device itself.
-/

namespace ModuleRegistry

open Text (ascii pathOf)
open Text.Percent (isUnreserved encode)

namespace DotSegments

/-! ## The rewriting -/

/-- A text without its last segment and the slash before that. -/
def dropSegment (output : Text) : Text :=
  ((output.reverse.dropWhile (· != '/'.toUInt8)).drop 1).reverse

/-- One step from what is left of a path and what has been put out; the comments give the letters
under which RFC 3986 lists the cases. -/
def step (input output : Text) : Text × Text :=
  -- A
  if (ascii "../").isPrefixOf input then (input.drop 3, output)
  else if (ascii "./").isPrefixOf input then (input.drop 2, output)
  -- B
  else if (ascii "/./").isPrefixOf input then (input.drop 2, output)
  else if input = ascii "/." then (ascii "/", output)
  -- C
  else if (ascii "/../").isPrefixOf input then (input.drop 3, dropSegment output)
  else if input = ascii "/.." then (ascii "/", dropSegment output)
  -- D
  else if input = ascii "." ∨ input = ascii ".." then ([], output)
  -- E
  else ((input.drop 1).dropWhile (· != '/'.toUInt8),
    output ++ (input.take 1 ++ (input.drop 1).takeWhile (· != '/'.toUInt8)))

lemma length_dropSegment_le (output : Text) : (dropSegment output).length ≤ output.length := by
  have := (List.dropWhile_sublist (l := output.reverse) (· != '/'.toUInt8)).length_le
  simp only [dropSegment, List.length_reverse, List.length_drop] at this ⊢
  omega

/-- A step loses something of the path, at most together with the last segment put out, or it puts
out the next segment as it is. -/
lemma step_cases {input : Text} (h : input ≠ []) (output : Text) :
    ((step input output).1.length < input.length ∧
      ((step input output).2 = output ∨ (step input output).2 = dropSegment output)) ∨
    ∃ x, x ≠ [] ∧ input = x ++ (step input output).1 ∧ (step input output).2 = output ++ x := by
  have hpos : 0 < input.length := List.length_pos_iff.2 h
  unfold step
  split
  · refine .inl ⟨?_, .inl rfl⟩
    simp only [List.length_drop]
    omega
  split
  · refine .inl ⟨?_, .inl rfl⟩
    simp only [List.length_drop]
    omega
  split
  · refine .inl ⟨?_, .inl rfl⟩
    simp only [List.length_drop]
    omega
  split
  · next hin =>
    refine .inl ⟨?_, .inl rfl⟩
    rw [hin]
    show (ascii "/").length < (ascii "/.").length
    decide
  split
  · refine .inl ⟨?_, .inr rfl⟩
    simp only [List.length_drop]
    omega
  split
  · next hin =>
    refine .inl ⟨?_, .inr rfl⟩
    rw [hin]
    show (ascii "/").length < (ascii "/..").length
    decide
  split
  · exact .inl ⟨hpos, .inl rfl⟩
  · obtain ⟨b, r, rfl⟩ := List.exists_cons_of_ne_nil h
    refine .inr ⟨[b] ++ r.takeWhile (· != '/'.toUInt8), by simp, ?_, rfl⟩
    rw [List.append_assoc]
    show [b] ++ r = [b] ++ (r.takeWhile _ ++ r.dropWhile _)
    rw [List.takeWhile_append_dropWhile]

lemma length_step_lt {input : Text} (h : input ≠ []) (output : Text) :
    (step input output).1.length < input.length := by
  obtain ⟨hlt, -⟩ | ⟨x, hx, hinput, -⟩ := step_cases h output
  · exact hlt
  · have hpos : 0 < x.length := List.length_pos_iff.2 hx
    have := congrArg List.length hinput
    rw [List.length_append] at this
    omega

lemma length_step_le {input : Text} (h : input ≠ []) (output : Text) :
    (step input output).1.length + (step input output).2.length ≤
      input.length + output.length := by
  have hdrop := length_dropSegment_le output
  obtain ⟨hlt, hout | hout⟩ | ⟨x, -, hinput, hout⟩ := step_cases h output
  · rw [hout]
    omega
  · rw [hout]
    omega
  · have := congrArg List.length hinput
    rw [List.length_append] at this
    rw [hout, List.length_append]
    omega

/-- The output once nothing of the path is left. -/
def removeInto (input output : Text) : Text :=
  if input = [] then output
  else removeInto (step input output).1 (step input output).2
termination_by input.length
decreasing_by exact length_step_lt (by assumption) output

/-- A path without its dot segments. -/
def remove (path : Text) : Text := removeInto path []

/-! ## Steps on a path of segments -/

@[simp] lemma removeInto_nil (output : Text) : removeInto [] output = output := by
  rw [removeInto, if_pos rfl]

lemma removeInto_of_ne_nil {input : Text} (h : input ≠ []) (output : Text) :
    removeInto input output = removeInto (step input output).1 (step input output).2 := by
  rw [removeInto, if_neg h]

/-- Not a dot segment. -/
def IsPlain (s : Text) : Prop := s ≠ ascii "." ∧ s ≠ ascii ".."

instance (s : Text) : Decidable (IsPlain s) := inferInstanceAs (Decidable (_ ∧ _))

lemma not_isPlain_iff {s : Text} : ¬IsPlain s ↔ s = ascii "." ∨ s = ascii ".." := by
  rw [IsPlain]
  by_cases h : s = ascii "." <;> by_cases h' : s = ascii ".." <;> simp [h, h']

/-- The two forms in which the rewriting looks for a segment both begin with it. -/
lemma before_slash_eq {w x : Text} (hw : '/'.toUInt8 ∉ w)
    (h : x = w ∨ (w ++ ascii "/").isPrefixOf x = true) : Text.before '/'.toUInt8 x = w := by
  rcases h with rfl | h
  · exact Text.before_eq_self hw
  · obtain ⟨r, rfl⟩ := List.isPrefixOf_iff_prefix.1 h
    have hslash : ascii "/" = ['/'.toUInt8] := rfl
    rw [hslash, List.append_assoc]
    exact Text.before_append_cons hw r

lemma not_looked_for {w x : Text} (hw : '/'.toUInt8 ∉ w) (h : Text.before '/'.toUInt8 x ≠ w) :
    '/'.toUInt8 :: x ≠ '/'.toUInt8 :: w ∧
      ¬('/'.toUInt8 :: (w ++ ascii "/")).isPrefixOf ('/'.toUInt8 :: x) = true := by
  constructor
  · intro e
    exact h (before_slash_eq hw (.inl (List.cons.inj e).2))
  · intro e
    exact h (before_slash_eq hw (.inr (by simpa [List.isPrefixOf] using e)))

/-- A plain segment behind a slash is put out as it is: case E, since the slash rules out A and D and
the segment B and C. -/
lemma step_slash {x : Text} (hx : IsPlain (Text.before '/'.toUInt8 x)) (output : Text) :
    step ('/'.toUInt8 :: x) output =
      (x.dropWhile (· != '/'.toUInt8), output ++ '/'.toUInt8 :: Text.before '/'.toUInt8 x) := by
  obtain ⟨hB', hB⟩ : '/'.toUInt8 :: x ≠ ascii "/." ∧
      ¬(ascii "/./").isPrefixOf ('/'.toUInt8 :: x) = true :=
    not_looked_for (w := ascii ".") (by decide) hx.1
  obtain ⟨hC', hC⟩ : '/'.toUInt8 :: x ≠ ascii "/.." ∧
      ¬(ascii "/../").isPrefixOf ('/'.toUInt8 :: x) = true :=
    not_looked_for (w := ascii "..") (by decide) hx.2
  have hA : ¬(ascii "../").isPrefixOf ('/'.toUInt8 :: x) = true := nofun
  have hA' : ¬(ascii "./").isPrefixOf ('/'.toUInt8 :: x) = true := nofun
  have hD : ¬('/'.toUInt8 :: x = ascii "." ∨ '/'.toUInt8 :: x = ascii "..") := by
    rintro (h | h) <;> exact absurd (List.cons.inj h).1 (by decide)
  rw [step, if_neg hA, if_neg hA', if_neg hB, if_neg hB', if_neg hC, if_neg hC', if_neg hD]
  rfl

lemma step_plain {s : Text} (hslash : '/'.toUInt8 ∉ s) (hs : IsPlain s) (r : List Text)
    (output : Text) :
    step (pathOf (s :: r)) output = (pathOf r, output ++ '/'.toUInt8 :: s) := by
  have hbefore := Text.before_append_pathOf hslash r
  rw [Text.pathOf_cons, step_slash (by rwa [hbefore]), hbefore,
    Text.dropWhile_append_pathOf hslash]

lemma step_dot {r : List Text} (hr : r ≠ []) (output : Text) :
    step (pathOf (ascii "." :: r)) output = (pathOf r, output) := by
  cases r with
  | nil => exact absurd rfl hr
  | cons t r => rfl

/-- A segment `..` goes with the one put out before it, if it is not the last. -/
lemma step_dots {r : List Text} (hr : r ≠ []) (output : Text) :
    step (pathOf (ascii ".." :: r)) output = (pathOf r, dropSegment output) := by
  cases r with
  | nil => exact absurd rfl hr
  | cons t r => rfl

/-! ## Whole paths -/

/-- Plain segments at the beginning are put out as they are. -/
lemma removeInto_pathOf_append {r : List Text} (hslash : ∀ s ∈ r, '/'.toUInt8 ∉ s)
    (hr : ∀ s ∈ r, IsPlain s) (r' : List Text) (output : Text) :
    removeInto (pathOf (r ++ r')) output = removeInto (pathOf r') (output ++ pathOf r) := by
  induction r generalizing output with
  | nil => simp
  | cons s r ih =>
    rw [List.cons_append, removeInto_of_ne_nil (by simp),
      step_plain (hslash s (by simp)) (hr s (by simp)),
      ih (fun t ht => hslash t (by simp [ht])) fun t ht => hr t (by simp [ht])]
    simp

lemma removeInto_pathOf {r : List Text} (hslash : ∀ s ∈ r, '/'.toUInt8 ∉ s)
    (hr : ∀ s ∈ r, IsPlain s) (output : Text) :
    removeInto (pathOf r) output = output ++ pathOf r := by
  simpa using removeInto_pathOf_append hslash hr [] output

/-- Plain segments are found whole at the end, whatever stands before them. -/
lemma exists_removeInto_append {b r : List Text} (hb : ∀ s ∈ b, '/'.toUInt8 ∉ s)
    (hslash : ∀ s ∈ r, '/'.toUInt8 ∉ s) (hr : ∀ s ∈ r, IsPlain s) (hne : r ≠ [])
    (output : Text) : ∃ p, removeInto (pathOf (b ++ r)) output = p ++ pathOf r := by
  induction b generalizing output with
  | nil => exact ⟨output, removeInto_pathOf hslash hr output⟩
  | cons s b ih =>
    have hb' : ∀ t ∈ b, '/'.toUInt8 ∉ t := fun t ht => hb t (by simp [ht])
    have hne' : b ++ r ≠ [] := by simp [hne]
    rw [List.cons_append, removeInto_of_ne_nil (by simp)]
    by_cases hs : IsPlain s
    · rw [step_plain (hb s (by simp)) hs]
      exact ih hb' _
    · rcases not_isPlain_iff.1 hs with rfl | rfl
      · rw [step_dot hne']
        exact ih hb' _
      · rw [step_dots hne']
        exact ih hb' _

lemma length_removeInto_le (input output : Text) :
    (removeInto input output).length ≤ input.length + output.length := by
  fun_induction removeInto input output with
  | case1 output => simp
  | case2 input output h ih => exact Nat.le_trans ih (length_step_le h output)

lemma length_step_lt_of_not_isPlain {s : Text} (hs : ¬IsPlain s) (r : List Text) (output : Text) :
    (step (pathOf (s :: r)) output).1.length + (step (pathOf (s :: r)) output).2.length <
      (pathOf (s :: r)).length + output.length := by
  have hdrop := length_dropSegment_le output
  rcases not_isPlain_iff.1 hs with rfl | rfl
  · cases r with
    | nil =>
      show 1 + output.length < 2 + output.length
      omega
    | cons t r =>
      rw [step_dot (by simp), Text.pathOf_cons (ascii "."), List.length_cons, List.length_append]
      show (pathOf (t :: r)).length + output.length < _
      omega
  · cases r with
    | nil =>
      show 1 + (dropSegment output).length < 3 + output.length
      omega
    | cons t r =>
      rw [step_dots (by simp), Text.pathOf_cons (ascii ".."), List.length_cons, List.length_append]
      show (pathOf (t :: r)).length + (dropSegment output).length < _
      omega

lemma length_removeInto_lt {r : List Text} (hslash : ∀ s ∈ r, '/'.toUInt8 ∉ s)
    (hr : ¬∀ s ∈ r, IsPlain s) (output : Text) :
    (removeInto (pathOf r) output).length < (pathOf r).length + output.length := by
  induction r generalizing output with
  | nil => exact absurd (by simp) hr
  | cons s r ih =>
    rw [removeInto_of_ne_nil (by simp)]
    by_cases hs : IsPlain s
    · have hr' : ¬∀ t ∈ r, IsPlain t := fun h => hr (by simpa [hs] using h)
      have := ih (fun t ht => hslash t (by simp [ht])) hr' (output ++ '/'.toUInt8 :: s)
      rw [step_plain (hslash s (by simp)) hs]
      simp only [Text.pathOf_cons, List.length_cons, List.length_append] at this ⊢
      omega
    · exact Nat.lt_of_le_of_lt (length_removeInto_le _ _)
        (length_step_lt_of_not_isPlain hs r output)

/-- **A path is left alone exactly if it has no dot segment.** -/
lemma remove_pathOf_eq_iff {r : List Text} (hslash : ∀ s ∈ r, '/'.toUInt8 ∉ s) :
    remove (pathOf r) = pathOf r ↔ ∀ s ∈ r, IsPlain s := by
  constructor
  · intro h
    by_contra hr
    have := length_removeInto_lt hslash hr []
    rw [← remove, h, List.length_nil] at this
    omega
  · intro hr
    rw [remove, removeInto_pathOf hslash hr, List.nil_append]

/-- A segment `..` at the end goes with the one before it and leaves its slash. -/
lemma removeInto_dots (output : Text) :
    removeInto (pathOf [ascii ".."]) output = dropSegment output ++ ascii "/" := by
  have hslash : removeInto (ascii "/") (dropSegment output) = dropSegment output ++ ascii "/" := by
    rw [removeInto_of_ne_nil (by decide)]
    exact removeInto_nil _
  rw [removeInto_of_ne_nil (by simp)]
  exact hslash

lemma dropSegment_append {s : Text} (hs : '/'.toUInt8 ∉ s) (output : Text) :
    dropSegment (output ++ '/'.toUInt8 :: s) = output := by
  have hall := Text.bne_of_mem (s := s.reverse) (by simpa using hs)
  rw [dropSegment, List.reverse_append, List.reverse_cons, List.append_assoc,
    List.dropWhile_append_of_pos hall]
  simp

end DotSegments

/-! ## The path of an operation -/

/-- The authority of a base address: all before the first slash behind the scheme. -/
def BaseUrl.authority (u : BaseUrl) : Text := Text.before '/'.toUInt8 u.rest

/-- The path of a base address: empty, or from the first slash behind the host on. -/
def BaseUrl.path (u : BaseUrl) : Text := u.rest.dropWhile (· != '/'.toUInt8)

lemma BaseUrl.exists_path_eq (u : BaseUrl) :
    ∃ r, u.path = pathOf r ∧ ∀ t ∈ r, '/'.toUInt8 ∉ t := by
  obtain ⟨s, r, hrest, hs, hr⟩ := Text.exists_append_pathOf u.rest
  exact ⟨r, by rw [path, hrest, Text.dropWhile_append_pathOf hs], hr⟩

namespace Device.Operation

open DotSegments

lemma isPlain_encode_iff (s : Text) : IsPlain (encode s) ↔ IsPlain s := by
  have hinj : ∀ t, encode s = encode t ↔ s = t := fun t =>
    ⟨fun h => by simpa using congrArg Text.Percent.decode h, congrArg encode⟩
  have hdot : ascii "." = encode (ascii ".") := by decide
  have hdots : ascii ".." = encode (ascii "..") := by decide
  have hdot' := hinj (ascii ".")
  have hdots' := hinj (ascii "..")
  rw [← hdot] at hdot'
  rw [← hdots] at hdots'
  rw [IsPlain, IsPlain, ne_eq, ne_eq, hdot', hdots']

lemma isPlain_segments_iff (d : Device) (op : Operation) :
    (∀ s ∈ op.segments d, IsPlain s) ↔ ∀ name ∈ d.id :: op.moduleId?.toList, IsPlain name := by
  have hdevices : IsPlain (ascii "devices") := by decide
  have hmodules : IsPlain (ascii "modules") := by decide
  simp [segments, hdevices, hmodules, isPlain_encode_iff]

lemma slash_not_mem_segments (d : Device) (op : Operation) :
    ∀ s ∈ op.segments d, '/'.toUInt8 ∉ s :=
  not_mem_segments (by decide) (by decide) d op

/-- The deletion, or the lookup, of the module `..` is about the device. -/
lemma remove_path_dots {d : Device} (hd : IsPlain d.id) {op : Operation}
    (hop : op.moduleId? = some (ascii "..")) :
    remove (op.path d) = ascii "/devices/" ++ encode d.id ++ ascii "/" := by
  have hsegments : op.segments d =
      [ascii "devices", encode d.id] ++ [ascii "modules"] ++ [ascii ".."] := by
    rw [segments, hop]
    rfl
  have hplain : ∀ s ∈ [ascii "devices", encode d.id] ++ [ascii "modules"], IsPlain s := by
    have hid := (isPlain_encode_iff d.id).2 hd
    simp only [List.mem_append, List.mem_cons, List.not_mem_nil, or_false]
    rintro s ((rfl | rfl) | rfl)
    · decide
    · exact hid
    · decide
  have hslash : ∀ s ∈ [ascii "devices", encode d.id] ++ [ascii "modules"], '/'.toUInt8 ∉ s :=
    fun s hs => slash_not_mem_segments d op s (by
      rw [hsegments]
      exact List.mem_append_left _ hs)
  have hlast : '/'.toUInt8 ∉ ascii "modules" := by decide
  have hdropped := dropSegment_append hlast (pathOf [ascii "devices", encode d.id])
  rw [path_eq_pathOf, hsegments, remove, removeInto_pathOf_append hslash hplain,
    removeInto_dots, Text.pathOf_append, List.nil_append, Text.pathOf_cons (ascii "modules"),
    Text.pathOf_nil, List.append_nil, hdropped]
  have hdevices : ascii "/devices/" = '/'.toUInt8 :: (ascii "devices" ++ ['/'.toUInt8]) := rfl
  simp [hdevices]

/-- **The path of an operation is left alone exactly if no name in it is a dot segment.**  The path
of the request's address is that of the base address and that of the operation; the latter survives
the removal of dot segments if and only if neither the device nor the module is called `.` or `..`,
and it is then found whole at the end of the resolved path. -/
theorem path_survives_iff (d : Device) (op : Operation) :
    (∃ query, (op.request d).url =
      d.client.baseUrl.scheme.text ++ d.client.baseUrl.authority ++
        (d.client.baseUrl.path ++ op.path d) ++ '?'.toUInt8 :: query) ∧
    (remove (op.path d) = op.path d ↔
      ∀ name ∈ d.id :: op.moduleId?.toList, name ≠ ascii "." ∧ name ≠ ascii "..") ∧
    ((∀ name ∈ d.id :: op.moduleId?.toList, name ≠ ascii "." ∧ name ≠ ascii "..") →
      ∃ p, remove (d.client.baseUrl.path ++ op.path d) = p ++ op.path d) := by
  have hslash := slash_not_mem_segments d op
  refine ⟨⟨ascii "api-version=" ++ encode d.client.apiVersion, ?_⟩, ?_, ?_⟩
  · have hrest : d.client.baseUrl.rest = d.client.baseUrl.authority ++ d.client.baseUrl.path :=
      (List.takeWhile_append_dropWhile).symm
    rw [url_request, tail, BaseUrl.text, hrest]
    simp
  · rw [path_eq_pathOf, remove_pathOf_eq_iff hslash]
    exact isPlain_segments_iff d op
  · intro h
    obtain ⟨b, hb, hbslash⟩ := d.client.baseUrl.exists_path_eq
    have hplain := (isPlain_segments_iff d op).2 h
    have hne : op.segments d ≠ [] := by simp [segments]
    obtain ⟨p, hp⟩ := exists_removeInto_append hbslash hslash hplain hne []
    refine ⟨p, ?_⟩
    rw [hb, path_eq_pathOf, ← hp, ← Text.pathOf_append, remove]

/-- The deletion of the module `..` of the device `edge` is resolved to the device: the identifiers
are accepted, and the dots are sent as they are. -/
theorem path_escapes :
    let c : Client := ⟨ascii "v", ⟨.https, ascii "hub"⟩, 30000⟩
    let d : Device := ⟨c, ascii "edge"⟩
    Client.connect true (ascii "v") (ascii "https://hub") = .ok c ∧
    Device.make c (ascii "edge") = .ok d ∧ (delete (ascii "..")).Named ∧
    ((delete (ascii "..")).request d).url =
      ascii "https://hub/devices/edge/modules/..?api-version=v" ∧
    remove (ascii "/devices/edge/modules/..") = ascii "/devices/edge/" := by
  intro c d
  have hc : Client.connect true (ascii "v") (ascii "https://hub") = .ok c := rfl
  have hd : Device.make c (ascii "edge") = .ok d := rfl
  have hop : (delete (ascii "..")).Named := named_of_moduleId? rfl (by decide)
  have hid : IsPlain d.id := by
    show IsPlain (ascii "edge")
    decide
  exact ⟨hc, hd, hop, rfl, (remove_path_dots hid rfl : remove ((delete (ascii "..")).path d) = _)⟩

end Device.Operation

end ModuleRegistry
