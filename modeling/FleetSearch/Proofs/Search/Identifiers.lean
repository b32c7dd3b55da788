import Mathlib.Data.List.Basic
import Mathlib.Data.List.Nodup
import Mathlib.Data.List.Perm.Basic
import FleetSearch.Proofs.Text.Trimmed
import FleetSearch.Search.Request

/-! The identifiers of a request. They are the only list of names without repetitions that has every
name the request writes down, blanks at its ends or not, and has them in the order in which they are
first written. So they stay the same if they are asked for again, and if a name is written once
more. -/

namespace FleetSearch.Search

variable {earlier others names front back : List String} {name : String}

theorem mem_distinctAfter : name ∈ distinctAfter earlier names ↔ name ∈ names ∧ name ∉ earlier := by
  induction names generalizing earlier with
  | nil => simp [distinctAfter]
  | cons first rest ih =>
    unfold distinctAfter
    by_cases seen : first ∈ earlier
    · rw [if_pos seen, ih, List.mem_cons]
      constructor
      · rintro ⟨member, fresh⟩
        exact ⟨.inr member, fresh⟩
      · rintro ⟨rfl | member, fresh⟩
        · exact absurd seen fresh
        · exact ⟨member, fresh⟩
    · rw [if_neg seen, List.mem_cons, ih, List.mem_cons, List.mem_cons]
      by_cases same : name = first
      · subst same
        simp [seen]
      · simp [same]

theorem nodup_distinctAfter (earlier names : List String) :
    (distinctAfter earlier names).Nodup := by
  induction names generalizing earlier with
  | nil => exact List.nodup_nil
  | cons first rest ih =>
    unfold distinctAfter
    split
    · exact ih earlier
    · refine List.nodup_cons.mpr ⟨?_, ih _⟩
      intro member
      exact (mem_distinctAfter.mp member).2 List.mem_cons_self

/-- Each name stands before those that are written down first behind it. -/
theorem pairwise_distinctAfter (earlier names : List String) :
    (distinctAfter earlier names).Pairwise fun first second =>
      names.idxOf first < names.idxOf second := by
  -- Behind the first name all places are one further on, for all names but itself.
  induction names generalizing earlier with
  | nil => exact List.Pairwise.nil
  | cons first rest ih =>
    have further {earlier : List String} (seen : first ∈ earlier) :
        (distinctAfter earlier rest).Pairwise fun one other =>
          (first :: rest).idxOf one < (first :: rest).idxOf other := by
      refine (ih earlier).imp_of_mem fun {one other} oneMember otherMember before => ?_
      have oneNe : first ≠ one := by
        rintro rfl
        exact (mem_distinctAfter.mp oneMember).2 seen
      have otherNe : first ≠ other := by
        rintro rfl
        exact (mem_distinctAfter.mp otherMember).2 seen
      rw [List.idxOf_cons_ne rest oneNe, List.idxOf_cons_ne rest otherNe]
      exact Nat.succ_lt_succ before
    unfold distinctAfter
    split
    · rename_i seen
      exact further seen
    · refine List.pairwise_cons.mpr ⟨?_, further List.mem_cons_self⟩
      intro other member
      have otherNe : first ≠ other := by
        rintro rfl
        exact (mem_distinctAfter.mp member).2 List.mem_cons_self
      rw [List.idxOf_cons_self, List.idxOf_cons_ne rest otherNe]
      exact Nat.succ_pos _

/-- Whether names without repetitions stand in the order of their places can be asked of any two of
them. -/
theorem pairwise_iff_idxOf (distinct : names.Nodup) {place : String → Nat} :
    (names.Pairwise fun first second => place first < place second) ↔
      ∀ first ∈ names, ∀ second ∈ names,
        names.idxOf first < names.idxOf second ↔ place first < place second := by
  constructor
  · intro order first firstMember second secondMember
    have inOrder {one other : String} (oneMember : one ∈ names) (otherMember : other ∈ names)
        (before : names.idxOf one < names.idxOf other) : place one < place other := by
      have found := List.pairwise_iff_getElem.mp order _ _ (List.idxOf_lt_length_of_mem oneMember)
        (List.idxOf_lt_length_of_mem otherMember) before
      rwa [List.getElem_idxOf, List.getElem_idxOf] at found
    refine ⟨inOrder firstMember secondMember, fun earlier => ?_⟩
    by_contra notBefore
    rcases Nat.lt_or_eq_of_le (Nat.le_of_not_lt notBefore) with behind | same
    · exact Nat.lt_asymm earlier (inOrder secondMember firstMember behind)
    · rw [(List.idxOf_inj secondMember).mp same] at earlier
      exact Nat.lt_irrefl _ earlier
  · intro ordered
    refine List.pairwise_iff_getElem.mpr fun i j iLt jLt before => ?_
    refine (ordered _ (List.getElem_mem iLt) _ (List.getElem_mem jLt)).mp ?_
    rwa [distinct.idxOf_getElem i iLt, distinct.idxOf_getElem j jLt]

/-- Members and order leave no choice. -/
theorem eq_of_pairwise_idxOf {written first second : List String}
    (members : ∀ name, name ∈ first ↔ name ∈ second)
    (firstOrder : first.Pairwise fun one other => written.idxOf one < written.idxOf other)
    (secondOrder : second.Pairwise fun one other => written.idxOf one < written.idxOf other) :
    first = second := by
  have distinct {names : List String}
      (order : names.Pairwise fun one other => written.idxOf one < written.idxOf other) :
      names.Nodup := by
    refine order.imp fun {one other} before same => ?_
    rw [same] at before
    exact Nat.lt_irrefl _ before
  have perm : first.Perm second :=
    (List.perm_ext_iff_of_nodup (distinct firstOrder) (distinct secondOrder)).mpr members
  refine perm.eq_of_pairwise ?_ firstOrder secondOrder
  intro one other _ _ before behind
  exact absurd before (Nat.lt_asymm behind)

theorem distinctAfter_congr (same : ∀ name, name ∈ earlier ↔ name ∈ others) (names : List String) :
    distinctAfter earlier names = distinctAfter others names := by
  refine eq_of_pairwise_idxOf ?_ (pairwise_distinctAfter earlier names)
    (pairwise_distinctAfter others names)
  intro name
  rw [mem_distinctAfter, mem_distinctAfter, same]

/-- To leave out a name is the same as to have had it before. -/
theorem distinctAfter_filter (name : String) (earlier names : List String) :
    distinctAfter earlier (names.filter (· ≠ name)) = distinctAfter (name :: earlier) names := by
  induction names generalizing earlier with
  | nil => rfl
  | cons first rest ih =>
    by_cases same : first = name
    · subst same
      rw [List.filter_cons_of_neg (by simp), ih]
      simp [distinctAfter]
    · rw [List.filter_cons_of_pos (by simpa using same)]
      unfold distinctAfter
      have swapped : distinctAfter (name :: first :: earlier) rest =
          distinctAfter (first :: name :: earlier) rest :=
        distinctAfter_congr (fun other => (List.Perm.swap first name earlier).mem_iff) rest
      simp only [List.mem_cons, same, false_or, ih, swapped]

theorem distinctAfter_eq_self (distinct : names.Nodup) (fresh : ∀ name ∈ names, name ∉ earlier) :
    distinctAfter earlier names = names := by
  induction names generalizing earlier with
  | nil => rfl
  | cons first rest ih =>
    obtain ⟨firstFresh, restFresh⟩ := List.forall_mem_cons.mp fresh
    obtain ⟨notMem, distinct⟩ := List.nodup_cons.mp distinct
    rw [distinctAfter, if_neg firstFresh, ih distinct]
    intro name member
    refine List.not_mem_cons_of_ne_of_not_mem ?_ (restFresh name member)
    rintro rfl
    exact notMem member

theorem distinctAfter_append_cons (seen : name ∈ earlier ∨ name ∈ front) :
    distinctAfter earlier (front ++ name :: back) = distinctAfter earlier (front ++ back) := by
  induction front generalizing earlier with
  | nil =>
    have before : name ∈ earlier := by simpa using seen
    rw [List.nil_append, List.nil_append, distinctAfter, if_pos before]
  | cons first rest ih =>
    rw [List.cons_append, List.cons_append, distinctAfter, distinctAfter]
    split
    · rename_i known
      refine ih ?_
      rcases seen with before | inFront
      · exact .inl before
      · rcases List.mem_cons.mp inFront with rfl | inRest
        · exact .inl known
        · exact .inr inRest
    · refine congrArg (first :: ·) (ih ?_)
      rcases seen with before | inFront
      · exact .inl (List.mem_cons_of_mem first before)
      · rcases List.mem_cons.mp inFront with rfl | inRest
        · exact .inl List.mem_cons_self
        · exact .inr inRest

/-- What a request writes down, without the blanks at the ends. -/
def Request.forms (request : Request) : List String :=
  request.backends.map Unicode.trim

/-- Whether names are the identifiers that a request writes down: without repetitions, all that
something is left of without blanks at the ends, in the order in which they first occur. -/
structure Request.Lists (request : Request) (names : List String) : Prop where
  distinct : names.Nodup
  members : ∀ name, name ∈ names ↔
    name ≠ "" ∧ ∃ written ∈ request.backends, Unicode.Trims written.toList name.toList
  ordered : ∀ first ∈ names, ∀ second ∈ names,
    names.idxOf first < names.idxOf second ↔
      request.forms.idxOf first < request.forms.idxOf second

namespace Request

variable {request : Request}

theorem identifiers_eq (request : Request) :
    request.identifiers = distinctAfter [""] request.forms :=
  distinctAfter_filter "" [] request.forms

theorem mem_forms_iff : name ∈ request.forms ↔
    ∃ written ∈ request.backends, Unicode.Trims written.toList name.toList := by
  simp only [forms, List.mem_map, Unicode.trims_iff, Unicode.trim, ← String.toList_inj,
    String.toList_ofList, eq_comm]

theorem mem_identifiers_iff : name ∈ request.identifiers ↔ name ≠ "" ∧ name ∈ request.forms := by
  rw [identifiers_eq, mem_distinctAfter, List.mem_singleton, and_comm]

theorem lists_iff : request.Lists names ↔ names = request.identifiers := by
  have distinct : request.identifiers.Nodup := nodup_distinctAfter _ _
  have order : request.identifiers.Pairwise fun first second =>
      request.forms.idxOf first < request.forms.idxOf second := by
    rw [identifiers_eq]
    exact pairwise_distinctAfter [""] request.forms
  have members (name : String) : name ∈ request.identifiers ↔
      name ≠ "" ∧ ∃ written ∈ request.backends, Unicode.Trims written.toList name.toList := by
    rw [mem_identifiers_iff, mem_forms_iff]
  constructor
  · intro lists
    refine eq_of_pairwise_idxOf ?_ ((pairwise_iff_idxOf lists.distinct).mpr lists.ordered) order
    intro name
    rw [lists.members, members]
  · rintro rfl
    exact ⟨distinct, members, (pairwise_iff_idxOf distinct).mp order⟩

theorem trim_of_mem_forms (member : name ∈ request.forms) : Unicode.trim name = name := by
  obtain ⟨written, _, trims⟩ := mem_forms_iff.mp member
  have already : Unicode.Trims name.toList name.toList :=
    ⟨⟨[], [], by simp, by simp, by simp⟩, trims.first, trims.last⟩
  rw [Unicode.trim, ← Unicode.trims_iff.mp already, String.ofList_toList]

/-- A request lists its identifiers and nothing else. They are the identifiers of the request for
just them, and of the request with a further text behind a text for the same name, or with a further
text of blanks. -/
theorem identifiers_listed (request : Request) :
    (∀ names, request.Lists names ↔ names = request.identifiers) ∧
    { request with backends := request.identifiers }.identifiers = request.identifiers ∧
    ∀ front back added, request.backends = front ++ back →
      Unicode.trim added = "" ∨ Unicode.trim added ∈ front.map Unicode.trim →
      { request with backends := front ++ added :: back }.identifiers = request.identifiers := by
  refine ⟨fun names => lists_iff, ?_, ?_⟩
  · have trimmed : request.identifiers.map Unicode.trim = request.identifiers := by
      conv_rhs => rw [← List.map_id request.identifiers]
      refine List.map_congr_left fun name member => ?_
      exact trim_of_mem_forms (mem_identifiers_iff.mp member).2
    have nonempty : ∀ name ∈ request.identifiers, name ∉ [""] := by
      intro name member
      simpa using (mem_identifiers_iff.mp member).1
    rw [identifiers_eq, forms, trimmed]
    exact distinctAfter_eq_self (nodup_distinctAfter _ _) nonempty
  · intro front back added split known
    rw [identifiers_eq, identifiers_eq, forms, forms, split, List.map_append, List.map_append,
      List.map_cons]
    exact distinctAfter_append_cons (known.imp_left List.mem_singleton.mpr)

/-- Texts for three names, two of them twice, and one of blanks only. -/
def spaced : Request :=
  { backends := [" west", "hosts", "\u3000west\t", "\u2028 ", "hosts", "idle\n"], pattern := "web" }

theorem identifiers_listed_spaced :
    spaced.identifiers = ["west", "hosts", "idle"] ∧ spaced.Lists ["west", "hosts", "idle"] ∧
      { spaced with backends := ["west", "hosts", "idle"] }.identifiers = spaced.identifiers ∧
      { spaced with backends := spaced.backends ++ ["\u00a0idle"] }.identifiers =
        spaced.identifiers ∧
      { spaced with backends := spaced.backends ++ [" \u2003"] }.identifiers =
        spaced.identifiers := by
  obtain ⟨listed, again, more⟩ := spaced.identifiers_listed
  have names : spaced.identifiers = ["west", "hosts", "idle"] := by decide
  have atEnd : spaced.backends = spaced.backends ++ [] := (List.append_nil _).symm
  refine ⟨names, (listed _).mpr names.symm, ?_, ?_, ?_⟩
  · rwa [names] at again
  · exact more _ [] "\u00a0idle" atEnd (.inr (by decide))
  · exact more _ [] " \u2003" atEnd (.inl (by decide))

end Request

end FleetSearch.Search
