import Mathlib.Data.List.Infix
import VirtualFactory.Foundation.Replace

/-!
# What a search and replace makes of a text

A text is cut at the leftmost occurrences of the token, and the pieces are joined by the
replacement.  Whether the token can come back in the result depends on how the
replacement and the token overlap.
-/

namespace VirtualFactory
namespace Foundation
namespace Replace

section Occurrences

variable {alpha : Type _}

/-- Behind this front the token occurs for the first time. -/
def Leads (token front : List alpha) : Prop :=
  ¬ token <:+: front ++ token.dropLast

/-- Every leftmost occurrence of the token that does not overlap the one before it is
exchanged, and everything else is kept. -/
inductive Rewrites (token replacement : List alpha) :
    List alpha -> List alpha -> Prop where
  | last {rest : List alpha} : ¬ token <:+: rest ->
      Rewrites token replacement rest rest
  | next {front rest result : List alpha} : Leads token front ->
      Rewrites token replacement rest result ->
      Rewrites token replacement (front ++ token ++ rest)
        (front ++ replacement ++ result)

/-!
# First occurrences
-/

theorem leads_nil {token : List alpha} (htoken : token ≠ []) : Leads token [] := by
  intro hoccurs
  have hle := hoccurs.length_le
  have hpos := List.length_pos_iff.mpr htoken
  rw [List.nil_append, List.length_dropLast] at hle
  omega

theorem leads_cons {token front rest : List alpha} {c : alpha}
    (hfirst : ¬ token <+: c :: (front ++ token ++ rest)) (hleads : Leads token front) :
    Leads token (c :: front) := by
  intro hoccurs
  rw [List.cons_append, List.infix_cons_iff] at hoccurs
  rcases hoccurs with hstarts | hlater
  · apply hfirst
    have hshorter : token.dropLast <+: token := List.dropLast_prefix token
    have hlonger : c :: (front ++ token.dropLast) <+: c :: (front ++ token ++ rest) := by
      rw [List.prefix_cons_inj, List.append_assoc, List.prefix_append_right_inj]
      exact hshorter.trans (List.prefix_append token rest)
    exact hstarts.trans hlonger
  · exact hleads hlater

theorem exists_leads {token : List alpha} (htoken : token ≠ []) :
    forall {text : List alpha}, token <:+: text ->
      exists front rest, text = front ++ token ++ rest ∧ Leads token front
  | [], hoccurs => absurd (List.infix_nil.mp hoccurs) htoken
  | c :: text, hoccurs => by
      by_cases hfirst : token <+: c :: text
      · rcases hfirst with ⟨rest, hrest⟩
        exact ⟨[], rest, hrest.symm, leads_nil htoken⟩
      · have hlater : token <:+: text := (List.infix_cons_iff.mp hoccurs).resolve_left hfirst
        rcases exists_leads htoken hlater with ⟨front, rest, htext, hleads⟩
        rw [htext] at hfirst ⊢
        exact ⟨c :: front, rest, rfl, leads_cons hfirst hleads⟩

theorem Leads.length_le {token front other rest behind : List alpha} (htoken : token ≠ [])
    (h : Leads token front) (hsame : other ++ token ++ rest = front ++ token ++ behind) :
    front.length ≤ other.length := by
  by_contra hlt
  have hpos := List.length_pos_iff.mpr htoken
  have hearly : other ++ token <+: front ++ token ++ behind := ⟨rest, hsame⟩
  have hshorter : token.dropLast <+: token := List.dropLast_prefix token
  have hlate : front ++ token.dropLast <+: front ++ token ++ behind := by
    rw [List.append_assoc, List.prefix_append_right_inj]
    exact hshorter.trans (List.prefix_append token behind)
  have hlength : (other ++ token).length ≤ (front ++ token.dropLast).length := by
    rw [List.length_append, List.length_append, List.length_dropLast]
    omega
  have hstarts := List.prefix_of_prefix_length_le hearly hlate hlength
  exact h (List.infix_append_right.trans hstarts.isInfix)

theorem Leads.unique {token front other rest behind : List alpha} (htoken : token ≠ [])
    (h : Leads token front) (hother : Leads token other)
    (hsame : front ++ token ++ rest = other ++ token ++ behind) :
    front = other ∧ rest = behind := by
  have hlength : front.length = other.length :=
    Nat.le_antisymm (h.length_le htoken hsame.symm) (hother.length_le htoken hsame)
  rw [List.append_assoc, List.append_assoc] at hsame
  rcases List.append_inj hsame hlength with ⟨hfront, hrest⟩
  exact ⟨hfront, List.append_cancel_left hrest⟩

theorem Leads.free {token front : List alpha} (h : Leads token front) :
    ¬ token <:+: front :=
  fun hoccurs => h (hoccurs.trans List.infix_append_left)

theorem Leads.not_overlapped {token front : List alpha} (h : Leads token front)
    {done start : List alpha} (hstart : start ≠ []) (hfront : front = done ++ start)
    {common rest : List alpha} (hsplit : token = start ++ common)
    (hcommon : token = common ++ rest) : False := by
  apply h
  cases rest using List.reverseRecOn with
  | nil =>
      rw [List.append_nil] at hcommon
      rw [← hcommon] at hsplit
      exact absurd (List.self_eq_append_left.mp hsplit) hstart
  | append_singleton rest c _ =>
      have hlast : token.dropLast = common ++ rest := by
        rw [hcommon, ← List.append_assoc, List.dropLast_concat]
      rw [hlast, hfront, List.append_assoc, ← List.append_assoc start, ← hsplit]
      exact List.infix_append' done token rest

/-!
# The result
-/

theorem Rewrites.unchanged {token replacement text result : List alpha}
    (h : Rewrites token replacement text result) (hfree : ¬ token <:+: text) :
    result = text := by
  cases h with
  | last _ => rfl
  | next _ _ => exact absurd (List.infix_append _ _ _) hfree

theorem Rewrites.ne_nil {token replacement text result : List alpha}
    (h : Rewrites token replacement text result) (hreplacement : replacement ≠ [])
    (htext : text ≠ []) : result ≠ [] := by
  cases h with
  | last _ => exact htext
  | next _ _ =>
      intro hnil
      rw [List.append_eq_nil_iff, List.append_eq_nil_iff] at hnil
      exact hreplacement hnil.1.2

theorem Rewrites.unique {token replacement text result : List alpha} (htoken : token ≠ [])
    (h : Rewrites token replacement text result) :
    forall {other : List alpha}, Rewrites token replacement text other -> other = result := by
  induction h with
  | last hfree =>
      intro other hother
      exact hother.unchanged hfree
  | @next front rest result hleads _ ih =>
      intro other hother
      generalize htext : front ++ token ++ rest = text at hother
      cases hother with
      | last hfree =>
          rw [← htext] at hfree
          exact absurd (List.infix_append _ _ _) hfree
      | @next front' rest' result' hleads' hrest' =>
          rcases hleads.unique htoken hleads' htext with ⟨rfl, rfl⟩
          rw [ih hrest']

/-!
# Whether the token can come back
-/

/-- No border between a text and the inserted replacement can make up the token. -/
structure Inert (token replacement : List alpha) : Prop where
  inside : ¬ token <:+: replacement
  around : ¬ replacement <:+: token
  after : forall mark, mark ≠ [] -> mark <:+ replacement -> ¬ mark <+: token
  before : forall mark, mark ≠ [] -> mark <+: replacement -> mark <:+ token ->
    mark <+: token

theorem inert_iff_tails {token replacement : List alpha} :
    Inert token replacement <->
      ¬ token <:+: replacement ∧ ¬ replacement <:+: token ∧
        (forall mark, mark ∈ replacement.tails -> mark ≠ [] -> ¬ mark <+: token) ∧
        (forall mark, mark ∈ replacement.inits -> mark ≠ [] -> mark <:+ token ->
          mark <+: token) := by
  simp only [List.mem_tails, List.mem_inits]
  constructor
  · intro h
    exact ⟨h.inside, h.around, fun mark htail hne => h.after mark hne htail,
      fun mark hinit hne => h.before mark hne hinit⟩
  · rintro ⟨hinside, haround, hafter, hbefore⟩
    exact ⟨hinside, haround, fun mark hne htail => hafter mark htail hne,
      fun mark hne hinit => hbefore mark hinit hne⟩

instance [DecidableEq alpha] (token replacement : List alpha) :
    Decidable (Inert token replacement) :=
  decidable_of_iff' _ inert_iff_tails

/-- An inert replacement leaves no token in the result. -/
theorem Rewrites.free {token replacement text result : List alpha}
    (h : Rewrites token replacement text result) (hinert : Inert token replacement) :
    ¬ token <:+: result := by
  induction h with
  | last hfree => exact hfree
  | @next front rest result hleads _ ih =>
      rw [List.append_assoc, List.infix_append_iff_ne_nil]
      rintro (hfront | hbehind | ⟨start, stop, hstart, hstop, htoken, hsuffix, hstarts⟩)
      · exact hleads.free hfront
      · rw [List.infix_append_iff_ne_nil] at hbehind
        rcases hbehind with hinside | hlater | ⟨start, stop, hstart, _, htoken, hsuffix, _⟩
        · exact hinert.inside hinside
        · exact ih hlater
        · exact hinert.after start hstart hsuffix ⟨stop, htoken.symm⟩
      · have hwhole := List.prefix_append replacement result
        rcases List.prefix_or_prefix_of_prefix hstarts hwhole with hwithin | ⟨more, hmore⟩
        · have hcommon := hinert.before stop hstop hwithin ⟨start, htoken.symm⟩
          rcases hcommon with ⟨rest, hrest⟩
          rcases hsuffix with ⟨done, hdone⟩
          exact hleads.not_overlapped hstart hdone.symm htoken hrest.symm
        · apply hinert.around
          rw [htoken, ← hmore, ← List.append_assoc]
          exact ⟨start, more, rfl⟩

theorem prefix_of_shifted {c : alpha} {mark : List alpha} (hc : c ∉ mark)
    {rest shift behind : List alpha} (hshift : shift ≠ [])
    (h : c :: mark ++ rest = shift ++ (c :: mark ++ behind)) : c :: mark <+: shift := by
  rcases List.exists_cons_of_ne_nil hshift with ⟨d, more, rfl⟩
  rw [List.cons_append, List.cons_append, List.cons.injEq] at h
  rcases h with ⟨rfl, h⟩
  rw [List.prefix_cons_inj]
  rcases List.append_eq_append_iff.mp h with ⟨tail, hmore, _⟩ | ⟨tail, hmark, htail⟩
  · exact ⟨tail, hmore.symm⟩
  · cases tail with
    | nil =>
        rw [List.append_nil] at hmark
        rw [hmark]
    | cons d tail =>
        rw [List.cons_append, List.cons_append, List.cons.injEq] at htail
        rw [hmark, ← htail.left] at hc
        exact absurd (List.mem_append_right _ List.mem_cons_self) hc

/-- An occurrence that ends too early is the next one, shifted to the left. -/
theorem exists_shift {token front : List alpha} (htoken : token ≠ [])
    (h : ¬ Leads token front) :
    exists done shift behind, shift ≠ [] ∧ front = done ++ shift ∧
      token ++ behind = shift ++ token := by
  rcases not_not.mp h with ⟨done, rest, hfound⟩
  have hagain : done ++ (token ++ (rest ++ [token.getLast htoken])) = front ++ token := by
    conv_rhs => rw [← List.dropLast_append_getLast htoken]
    rw [← List.append_assoc front, ← hfound]
    simp only [List.append_assoc]
  have hlength := congrArg List.length hagain
  have hshorter : done.length < front.length := by
    simp only [List.length_append, List.length_singleton] at hlength
    omega
  rcases List.append_eq_append_iff.mp hagain with ⟨shift, hfront, hshift⟩ | ⟨shift, hdone, _⟩
  · refine ⟨done, shift, _, ?_, hfront, hshift⟩
    rintro rfl
    rw [hfront, List.append_nil] at hshorter
    exact Nat.lt_irrefl _ hshorter
  · rw [hdone, List.length_append] at hshorter
    omega

/-- A token that begins with a front and a mark is found behind the same front again,
unless the mark is in the front. -/
theorem leads_or_mark {c : alpha} {mark : List alpha} (hc : c ∉ mark)
    {token front behind : List alpha} (htoken : token = front ++ (c :: mark ++ behind)) :
    Leads token front ∨ c :: mark <:+: front ∧ c :: mark <+: token := by
  by_cases hleads : Leads token front
  · exact Or.inl hleads
  · right
    have hne : token ≠ [] := by
      rw [htoken]
      simp
    rcases exists_shift hne hleads with ⟨done, shift, rest, hshift, hfront, hagain⟩
    have hcut : done ++ shift ++ (c :: mark ++ (behind ++ rest)) =
        shift ++ done ++ (shift ++ (c :: mark ++ behind)) := by
      simpa only [htoken, hfront, List.append_assoc] using hagain
    have hlength : (done ++ shift).length = (shift ++ done).length := by
      rw [List.length_append, List.length_append, Nat.add_comm]
    rcases List.append_inj hcut hlength with ⟨hcommute, hmark⟩
    have hstarts : c :: mark <+: shift := prefix_of_shifted hc hshift hmark
    constructor
    · rw [hfront]
      exact List.infix_append_of_infix_right hstarts.isInfix
    · rw [htoken, hfront, hcommute, List.append_assoc]
      exact List.prefix_append_of_prefix hstarts

theorem free_of_shorter {token rest : List alpha} (h : rest.length < token.length) :
    ¬ token <:+: rest :=
  fun hoccurs => absurd hoccurs.length_le (Nat.not_le.mpr h)

/-- A token that can come back does so in the result of some text. -/
theorem inert_of_forall_free {c : alpha} {tail token : List alpha} (hc : c ∉ tail)
    (htoken : token ≠ [])
    (h : forall text result, Rewrites token (c :: tail) text result ->
      ¬ token <:+: result) : Inert token (c :: tail) := by
  have honce : forall {front rest : List alpha}, Leads token front ->
      rest.length < token.length ->
      ¬ token <:+: front ++ (c :: tail) ++ rest := by
    intro front rest hleads hrest
    exact h _ _ (Rewrites.next hleads (Rewrites.last (free_of_shorter hrest)))
  constructor
  case inside =>
    intro hinside
    have hpos : ([] : List alpha).length < token.length := List.length_pos_iff.mpr htoken
    apply honce (leads_nil htoken) hpos
    rw [List.nil_append, List.append_nil]
    exact hinside
  case around =>
    intro haround
    have hcons : c :: tail ≠ [] := List.cons_ne_nil c tail
    rcases exists_leads hcons haround with ⟨front, behind, hsplit, hfirst⟩
    rw [List.append_assoc] at hsplit
    have hleads : Leads token front :=
      (leads_or_mark hc hsplit).resolve_right fun hmark => hfirst.free hmark.left
    have hshorter : behind.length < token.length := by
      rw [hsplit]
      simp only [List.length_append, List.length_cons]
      omega
    apply honce hleads hshorter
    rw [List.append_assoc, ← hsplit]
  case after =>
    intro mark hmark hsuffix hstarts
    rcases hstarts with ⟨rest, hrest⟩
    rcases hsuffix with ⟨start, hstart⟩
    have hshorter : rest.length < token.length := by
      have hpos := List.length_pos_iff.mpr hmark
      rw [← hrest, List.length_append]
      omega
    apply honce (leads_nil htoken) hshorter
    rw [List.nil_append, ← hstart, List.append_assoc, hrest]
    exact List.infix_append_right
  case before =>
    intro mark hmark hstarts hsuffix
    rcases List.exists_cons_of_ne_nil hmark with ⟨d, more, rfl⟩
    rcases hsuffix with ⟨front, hsplit⟩
    rcases hstarts with ⟨rest, hrest⟩
    rw [List.cons_append, List.cons.injEq] at hrest
    rcases hrest with ⟨rfl, hrest⟩
    by_contra hnot
    have hmore : d ∉ more := by
      rw [← hrest] at hc
      exact fun hmem => hc (List.mem_append_left _ hmem)
    have hagain : token = front ++ (d :: more ++ []) := by
      rw [List.append_nil, hsplit]
    have hleads : Leads token front :=
      (leads_or_mark hmore hagain).resolve_right fun hmark => hnot hmark.right
    have hpos : ([] : List alpha).length < token.length := List.length_pos_iff.mpr htoken
    apply honce hleads hpos
    rw [List.append_nil, ← hrest, ← List.cons_append, ← List.append_assoc, hsplit]
    exact List.infix_append_left

end Occurrences

/-!
# The loop
-/

/-- The loop without a bound on its rounds ends with this text. -/
inductive LoopEnds (token replacement : List Char) :
    List Char -> Nat -> List Char -> Prop where
  | stop {text : List Char} {pos : Nat} : findFrom token text pos = none ->
      LoopEnds token replacement text pos text
  | round {text result : List Char} {pos i : Nat} : findFrom token text pos = some i ->
      LoopEnds token replacement (replaceAt token replacement text i)
        (i + replacement.length) result ->
      LoopEnds token replacement text pos result

inductive Found (token : List Char) (offset : Nat) : List Char -> Option Nat -> Prop where
  | none {text : List Char} : ¬ token <:+: text -> Found token offset text none
  | some {front rest : List Char} : Leads token front ->
      Found token offset (front ++ token ++ rest) (some (offset + front.length))

theorem found_findIn {token : List Char} (htoken : token ≠ []) :
    forall (text : List Char) (offset : Nat),
      Found token offset text (findIn token text offset)
  | [], offset => by
      rw [findIn, if_neg htoken]
      exact Found.none fun hoccurs => htoken (List.infix_nil.mp hoccurs)
  | c :: text, offset => by
      unfold findIn
      by_cases hfirst : token <+: c :: text
      · have hstarts : token.isPrefixOf (c :: text) = true :=
          List.isPrefixOf_iff_prefix.mpr hfirst
        rw [if_pos hstarts]
        rcases hfirst with ⟨rest, hrest⟩
        rw [← hrest]
        exact Found.some (leads_nil htoken)
      · rw [if_neg (mt List.isPrefixOf_iff_prefix.mp hfirst)]
        have hlater := found_findIn htoken text (offset + 1)
        generalize findIn token text (offset + 1) = answer at hlater
        cases hlater with
        | none hfree =>
            apply Found.none
            rw [List.infix_cons_iff]
            exact fun h => h.elim hfirst hfree
        | @some front rest hleads =>
            have hcons : Found token offset (c :: front ++ token ++ rest)
                (some (offset + (c :: front).length)) :=
              Found.some (leads_cons hfirst hleads)
            rw [List.length_cons, Nat.add_comm front.length, ← Nat.add_assoc] at hcons
            exact hcons

theorem replaceLoop_spec {token : List Char} (htoken : token ≠ [])
    (replacement : List Char) :
    forall (fuel : Nat) (done rest : List Char), rest.length < fuel ->
      exists result,
        replaceLoop token replacement fuel (done ++ rest) done.length = done ++ result ∧
        Rewrites token replacement rest result ∧
        LoopEnds token replacement (done ++ rest) done.length (done ++ result)
  | 0, _, _, hfuel => absurd hfuel (Nat.not_lt_zero _)
  | fuel + 1, done, rest, hfuel => by
      have hsearch : findFrom token (done ++ rest) done.length =
          findIn token rest done.length := by
        unfold findFrom
        rw [if_pos (by rw [List.length_append]; omega), List.drop_left]
      have hfound := found_findIn htoken rest done.length
      rw [← hsearch] at hfound
      generalize hanswer : findFrom token (done ++ rest) done.length = answer at hfound
      cases hfound with
      | none hfree =>
          refine ⟨rest, ?_, Rewrites.last hfree, LoopEnds.stop hanswer⟩
          rw [replaceLoop, hanswer]
      | @some front rest hleads =>
          have hpos := List.length_pos_iff.mpr htoken
          have hround : replaceAt token replacement (done ++ (front ++ token ++ rest))
              (done.length + front.length) = done ++ front ++ replacement ++ rest := by
            unfold replaceAt
            have hcut : done ++ (front ++ token ++ rest) =
                (done ++ front) ++ (token ++ rest) := by
              simp only [List.append_assoc]
            rw [hcut, ← List.length_append, List.take_left, ← List.drop_drop,
              List.drop_left, List.drop_left]
          have hbehind : done.length + front.length + replacement.length =
              (done ++ front ++ replacement).length := by
            rw [List.length_append, List.length_append]
          rcases replaceLoop_spec htoken replacement fuel (done ++ front ++ replacement) rest
            (by simp only [List.length_append] at hfuel; omega) with
            ⟨result, hloop, hrewrites, hends⟩
          have hresult : done ++ front ++ replacement ++ result =
              done ++ (front ++ replacement ++ result) := by
            simp only [List.append_assoc]
          refine ⟨front ++ replacement ++ result, ?_, Rewrites.next hleads hrewrites, ?_⟩
          · rw [replaceLoop, hanswer]
            dsimp only
            rw [hround, hbehind, hloop, hresult]
          · apply LoopEnds.round hanswer
            rw [hround, hbehind, ← hresult]
            exact hends

/-- The loop of a search and replace ends, and its result is the rewritten text. -/
theorem replaceAll_spec {token : String} (htoken : token ≠ "") (replacement text : String) :
    Rewrites token.toList replacement.toList text.toList
        (replaceAll token replacement text).toList ∧
      LoopEnds token.toList replacement.toList text.toList 0
        (replaceAll token replacement text).toList := by
  have hne : token.toList ≠ [] := fun hnil => htoken (String.toList_eq_nil_iff.mp hnil)
  rcases replaceLoop_spec hne replacement.toList (text.toList.length + 1) [] text.toList
    (Nat.lt_succ_self _) with ⟨result, hloop, hrewrites, hends⟩
  simp only [List.nil_append, List.length_nil] at hloop hends
  unfold replaceAll
  rw [String.toList_ofList, hloop]
  exact ⟨hrewrites, hends⟩

end Replace
end Foundation
end VirtualFactory
