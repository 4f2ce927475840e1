import VirtualFactory.Industrial.Rest

/-!
# The resources of the REST adapter

The base path and the path of a request are brought into one form and joined behind the
origin.  Which resource a request names should depend on the segments of the two only.
-/

namespace VirtualFactory

/-!
# The loop at the end of a text
-/

/-- The loop of `trimSlashes` on the reversed text: one slash is popped as long as more
than one character is left. -/
def popSlashes : List Char -> List Char
  | c :: d :: rest => if c = '/' then popSlashes (d :: rest) else c :: d :: rest
  | cs => cs

theorem popSlashes_eq : forall cs : List Char,
    popSlashes cs =
      if cs.dropWhile (fun c => c == '/') = [] then (cs.reverse.take 1).reverse
      else cs.dropWhile (fun c => c == '/')
  | [] => rfl
  | [c] => by
      by_cases hc : c = '/'
      · rw [hc]
        rfl
      · rw [List.dropWhile_cons_of_neg (by rw [beq_iff_eq]; exact hc)]
        rfl
  | c :: d :: rest => by
      unfold popSlashes
      by_cases hc : c = '/'
      · have hdrop : (c :: d :: rest).dropWhile (fun c => c == '/') =
            (d :: rest).dropWhile (fun c => c == '/') :=
          List.dropWhile_cons_of_pos (beq_iff_eq.mpr hc)
        have hfirst : (c :: d :: rest).reverse.take 1 = (d :: rest).reverse.take 1 := by
          rw [List.reverse_cons, List.take_append_of_le_length]
          rw [List.length_reverse, List.length_cons]
          omega
        rw [if_pos hc, popSlashes_eq (d :: rest), hdrop, hfirst]
      · rw [if_neg hc, List.dropWhile_cons_of_neg (by rw [beq_iff_eq]; exact hc),
          if_neg (List.cons_ne_nil _ _)]

/-- The text is trimmed by the loop, and it gets its leading slash behind it. -/
theorem trimSlashes_eq_loop (value : String) (keepLeading : Bool) :
    trimSlashes value keepLeading =
      match (popSlashes value.toList.reverse).reverse with
      | [] => ""
      | c :: rest =>
          if keepLeading && c != '/' then String.ofList ('/' :: c :: rest)
          else String.ofList (c :: rest) := by
  have hkept : (popSlashes value.toList.reverse).reverse =
      if value.toList.reverse.dropWhile (fun c => c == '/') = [] then value.toList.take 1
      else (value.toList.reverse.dropWhile (fun c => c == '/')).reverse := by
    rw [popSlashes_eq, List.reverse_reverse]
    split
    · rw [List.reverse_reverse]
    · rfl
  rw [hkept]
  rfl

/-!
# Parts of a path
-/

/-- A part of a path as it may be configured: segments between single slashes, perhaps
behind a slash, and slashes at the end. -/
structure PathPart where
  leading : Bool
  segments : List (List Char)
  trailing : Nat
  segments_ne_nil : forall segment, segment ∈ segments -> segment ≠ []
  no_slash : forall segment, segment ∈ segments -> '/' ∉ segment

def joinSegments (segments : List (List Char)) : List Char :=
  List.intercalate ['/'] segments

namespace PathPart

def text (part : PathPart) : String :=
  String.ofList
    ((if part.leading then ['/'] else []) ++ joinSegments part.segments ++
      List.replicate part.trailing '/')

theorem text_of_no_segments {part : PathPart} (h : part.segments = []) :
    exists n, part.text.toList = List.replicate n '/' := by
  unfold text
  rw [String.toList_ofList, h]
  cases part.leading with
  | true => exact ⟨part.trailing + 1, rfl⟩
  | false => exact ⟨part.trailing, rfl⟩

end PathPart

/-- The text consists of slashes, of one at least. -/
def AllSlashes (value : String) : Prop :=
  value ≠ "" ∧ forall c, c ∈ value.toList -> c = '/'

/-!
# Segments
-/

def absolutePath (segments : List (List Char)) : List Char :=
  segments.flatMap (fun segment => '/' :: segment)

theorem cons_joinSegments : forall {segments : List (List Char)}, segments ≠ [] ->
    '/' :: joinSegments segments = absolutePath segments
  | [], h => absurd rfl h
  | [segment], _ => by
      unfold joinSegments absolutePath
      rw [List.intercalate_singleton, List.flatMap_singleton]
  | segment :: next :: rest, _ => by
      have hrest := cons_joinSegments (List.cons_ne_nil next rest)
      unfold joinSegments absolutePath at hrest ⊢
      rw [List.intercalate_cons_cons, List.flatMap_cons, ← hrest, List.append_assoc]
      rfl

theorem joinSegments_eq_cons (part : PathPart) (h : part.segments ≠ []) :
    exists c rest, joinSegments part.segments = c :: rest ∧ c ≠ '/' := by
  rcases List.exists_cons_of_ne_nil h with ⟨segment, rest, hsegments⟩
  have hmem : segment ∈ part.segments := by
    rw [hsegments]
    exact List.mem_cons_self
  rcases List.exists_cons_of_ne_nil (part.segments_ne_nil segment hmem) with ⟨c, cs, hc⟩
  have hslash : c ≠ '/' := by
    intro heq
    apply part.no_slash segment hmem
    rw [hc, heq]
    exact List.mem_cons_self
  have hjoined := cons_joinSegments h
  rw [hsegments, hc] at hjoined
  unfold absolutePath at hjoined
  rw [List.flatMap_cons, List.cons_append, List.cons.injEq] at hjoined
  rw [hsegments, hc]
  exact ⟨c, _, hjoined.right, hslash⟩

theorem joinSegments_eq_concat (part : PathPart) (h : part.segments ≠ []) :
    exists cs c, joinSegments part.segments = cs ++ [c] ∧ c ≠ '/' := by
  have hlast := List.getLast_mem h
  have hsplit : absolutePath part.segments =
      absolutePath part.segments.dropLast ++ '/' :: part.segments.getLast h := by
    conv_lhs => rw [← List.dropLast_append_getLast h]
    unfold absolutePath
    rw [List.flatMap_append, List.flatMap_singleton]
  have hjoined := (cons_joinSegments h).trans hsplit
  rcases (List.eq_nil_or_concat' (part.segments.getLast h)) with hnil | ⟨cs, c, hc⟩
  · exact absurd hnil (part.segments_ne_nil _ hlast)
  · have hslash : c ≠ '/' := by
      intro heq
      apply part.no_slash _ hlast
      rw [hc, heq]
      exact List.mem_append_right _ List.mem_cons_self
    rw [hc] at hjoined
    cases hbefore : absolutePath part.segments.dropLast with
    | nil =>
        rw [hbefore, List.nil_append, List.cons.injEq] at hjoined
        exact ⟨cs, c, hjoined.right, hslash⟩
    | cons d before =>
        rw [hbefore, List.cons_append, List.cons.injEq] at hjoined
        refine ⟨before ++ '/' :: cs, c, ?_, hslash⟩
        rw [hjoined.right, List.append_assoc, List.cons_append]

/-!
# Trimming
-/

/-- The loop pops what is behind the last character that is not a slash. -/
theorem popSlashes_of_ends {kept : List Char} {c : Char} (hc : c ≠ '/') (n : Nat) :
    popSlashes (kept ++ [c] ++ List.replicate n '/').reverse = (kept ++ [c]).reverse := by
  have hdrop : (kept ++ [c] ++ List.replicate n '/').reverse.dropWhile (fun c => c == '/') =
      (kept ++ [c]).reverse := by
    rw [List.reverse_append, List.reverse_replicate, List.dropWhile_append_of_pos,
      List.reverse_append, List.reverse_singleton, List.singleton_append,
      List.dropWhile_cons_of_neg (by rw [beq_iff_eq]; exact hc)]
    intro d hd
    exact beq_iff_eq.mpr (List.eq_of_mem_replicate hd)
  rw [popSlashes_eq, hdrop, if_neg]
  rw [List.reverse_append]
  exact List.cons_ne_nil _ _

theorem trimSlashes_segments {part : PathPart} (h : part.segments ≠ []) :
    trimSlashes part.text true = String.ofList (absolutePath part.segments) := by
  rcases joinSegments_eq_concat part h with ⟨cs, d, hends, hd⟩
  rcases joinSegments_eq_cons part h with ⟨c, rest, hstarts, hc⟩
  have hpopped : (popSlashes part.text.toList.reverse).reverse =
      (if part.leading then ['/'] else []) ++ joinSegments part.segments := by
    unfold PathPart.text
    rw [String.toList_ofList, hends, ← List.append_assoc, popSlashes_of_ends hd,
      List.reverse_reverse]
  rw [trimSlashes_eq_loop, hpopped, ← cons_joinSegments h, hstarts]
  cases part.leading with
  | true => rfl
  | false =>
      show (if c != '/' then _ else _) = _
      rw [if_pos (bne_iff_ne.mpr hc)]

theorem popSlashes_replicate (n : Nat) :
    popSlashes (List.replicate (n + 1) '/') = ['/'] := by
  induction n with
  | zero => rfl
  | succ n ih =>
      rw [List.replicate_succ, List.replicate_succ]
      unfold popSlashes
      rw [if_pos rfl, ← List.replicate_succ]
      exact ih

theorem trimSlashes_of_slashes {value : String} {n : Nat}
    (h : value.toList = List.replicate n '/') :
    trimSlashes value true = if n = 0 then "" else "/" := by
  rw [trimSlashes_eq_loop, h, List.reverse_replicate]
  cases n with
  | zero => rfl
  | succ n =>
      rw [popSlashes_replicate]
      rfl

/-!
# Joining
-/

theorem not_allSlashes_of_segments {part : PathPart} (h : part.segments ≠ []) :
    ¬ AllSlashes part.text := by
  intro hall
  rcases joinSegments_eq_cons part h with ⟨c, rest, hstarts, hc⟩
  apply hc
  apply hall.right
  unfold PathPart.text
  rw [String.toList_ofList, hstarts]
  simp

/-- A base path of segments leads the path; without segments it is a slash or nothing. -/
theorem trimSlashes_base (part : PathPart) :
    (¬ AllSlashes part.text ∧
        trimSlashes part.text true = String.ofList (absolutePath part.segments)) ∨
      (AllSlashes part.text ∧ part.segments = [] ∧ trimSlashes part.text true = "/") := by
  by_cases h : part.segments = []
  · rcases part.text_of_no_segments h with ⟨n, hn⟩
    have htrim := trimSlashes_of_slashes hn
    rw [h, htrim]
    cases n with
    | zero =>
        left
        refine ⟨fun hall => hall.left (String.toList_eq_nil_iff.mp hn), rfl⟩
    | succ n =>
        right
        refine ⟨⟨?_, ?_⟩, rfl, rfl⟩
        · intro hempty
          rw [String.toList_eq_nil_iff.mpr hempty] at hn
          cases hn
        · intro c hc
          rw [hn] at hc
          exact List.eq_of_mem_replicate hc
  · exact Or.inl ⟨not_allSlashes_of_segments h, trimSlashes_segments h⟩

/-- A request names the resource of its segments exactly when the base path does not
consist of slashes. -/
theorem joinUrl_iff (s : HttpSession) (base path : PathPart)
    (hbase : s.config.basePath = base.text) (hpath : path.segments ≠ []) :
    s.joinUrl path.text =
        s.originUrl ++ "/" ++
          String.ofList (joinSegments (base.segments ++ path.segments)) <->
      ¬ AllSlashes s.config.basePath := by
  have hjoined : base.segments ++ path.segments ≠ [] :=
    List.append_ne_nil_of_right_ne_nil _ hpath
  have hresource : s.originUrl ++ "/" ++
        String.ofList (joinSegments (base.segments ++ path.segments)) =
      s.originUrl ++ String.ofList (absolutePath base.segments) ++
        String.ofList (absolutePath path.segments) := by
    rw [← String.toList_inj]
    simp only [String.toList_append, String.toList_ofList, List.append_assoc]
    congr 1
    show '/' :: joinSegments (base.segments ++ path.segments) = _
    rw [cons_joinSegments hjoined]
    unfold absolutePath
    rw [List.flatMap_append]
  unfold HttpSession.joinUrl
  rw [hresource, trimSlashes_segments hpath, hbase]
  rcases trimSlashes_base base with ⟨hnot, htrim⟩ | ⟨hall, hnone, htrim⟩
  · rw [htrim]
    exact ⟨fun _ => hnot, fun _ => rfl⟩
  · rw [htrim, hnone]
    constructor
    · intro hsame
      have hlength := congrArg (fun url => url.toList.length) hsame
      simp [absolutePath] at hlength
    · intro hnot
      exact absurd hall hnot

def healthPart : PathPart where
  leading := true
  segments := ["health".toList]
  trailing := 0
  segments_ne_nil := by decide
  no_slash := by decide

def gatewayPart : PathPart where
  leading := true
  segments := ["gw".toList]
  trailing := 1
  segments_ne_nil := by decide
  no_slash := by decide

def rootPart : PathPart where
  leading := true
  segments := []
  trailing := 0
  segments_ne_nil := by decide
  no_slash := by decide

def sessionWithBase (basePath : String) : HttpSession where
  config := { ({} : HttpSession).config with basePath := basePath }

theorem joinUrl_iff_gateway :
    (sessionWithBase "/gw/").joinUrl healthPart.text =
        (sessionWithBase "/gw/").originUrl ++ "/" ++
          String.ofList (joinSegments (gatewayPart.segments ++ healthPart.segments)) <->
      ¬ AllSlashes "/gw/" :=
  joinUrl_iff (sessionWithBase "/gw/") gatewayPart healthPart (by decide) (by decide)

/-- Behind the base path of a single slash, an empty segment comes before the path. -/
theorem joinUrl_root :
    (sessionWithBase "/").config.basePath = rootPart.text ∧ healthPart.segments ≠ [] ∧
      (sessionWithBase "/").joinUrl healthPart.text =
        (sessionWithBase "/").originUrl ++ "//health" ∧
      (sessionWithBase "/").originUrl ++ "/" ++
          String.ofList (joinSegments (rootPart.segments ++ healthPart.segments)) =
        (sessionWithBase "/").originUrl ++ "/health" ∧
      (sessionWithBase "/").joinUrl healthPart.text ≠
        (sessionWithBase "/").originUrl ++ "/" ++
          String.ofList (joinSegments (rootPart.segments ++ healthPart.segments)) := by
  refine ⟨by decide, by decide, by decide, by decide, by decide⟩

end VirtualFactory
