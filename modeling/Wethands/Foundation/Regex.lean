import Mathlib.Computability.Language

/-!
# Regular expressions with captures

A backtracking matcher in the manner of ECMAScript.  The ways to match a
beginning of the text are listed in the order in which the matcher tries them:
the left alternative first, and as many repetitions as possible first.
-/

namespace Wethands
namespace Foundation

variable {α : Type}

inductive Regex (α : Type) where
  | one (p : α -> Bool)
  | empty
  | seq (first second : Regex α)
  | alt (first second : Regex α)
  | star (body : Regex α)
  | group (n : Nat) (body : Regex α)

structure Matching (α : Type) where
  rest : List α
  captures : Nat -> List α

namespace Matching

def Start (text : List α) : Matching α where
  rest := text
  captures := fun _ => []

def Capture (m : Matching α) (n : Nat) (text : List α) : Matching α where
  rest := m.rest
  captures := fun k => if k = n then text else m.captures k

end Matching

namespace Regex

/-- `r+` -/
def Plus (r : Regex α) : Regex α := seq r (star r)

/-- `r?` -/
def Opt (r : Regex α) : Regex α := alt r empty

def Word [DecidableEq α] (word : List α) : Regex α :=
  word.foldr (fun a r => seq (one (fun b => decide (b = a))) r) empty

def Choice (first : Regex α) (others : List (Regex α)) : Regex α :=
  others.foldl alt first

/-!
# The matcher
-/

/-- Repetitions that leave no less of the text are given up. -/
def Repeat (once : Matching α -> List (Matching α)) :
    Nat -> Matching α -> List (Matching α)
  | 0, m => [m]
  | fuel + 1, m =>
      ((once m).filter (fun next => next.rest.length < m.rest.length)).flatMap
        (Repeat once fuel) ++ [m]

def Results : Regex α -> Matching α -> List (Matching α)
  | one p, m =>
      match m.rest with
      | [] => []
      | a :: rest => if p a then [{ m with rest := rest }] else []
  | empty, m => [m]
  | seq first second, m => (first.Results m).flatMap second.Results
  | alt first second, m => first.Results m ++ second.Results m
  | star body, m => Repeat body.Results m.rest.length m
  | group n body, m =>
      (body.Results m).map (fun last => last.Capture n
        (m.rest.take (m.rest.length - last.rest.length)))

def FullMatch (r : Regex α) (text : List α) : Option (Nat -> List α) :=
  ((r.Results (Matching.Start text)).find? (fun last => last.rest.isEmpty)).map
    Matching.captures

/-!
# The language of an expression
-/

def Denotes : Regex α -> Language α
  | one p => { word | exists a, p a = true ∧ word = [a] }
  | empty => 1
  | seq first second => first.Denotes * second.Denotes
  | alt first second => first.Denotes + second.Denotes
  | star body => KStar.kstar body.Denotes
  | group _ body => body.Denotes

theorem repeat_sound {L : Language α}
    {once : Matching α -> List (Matching α)}
    (honce : forall m last, last ∈ once m ->
      exists word, word ∈ L ∧ m.rest = word ++ last.rest)
    {fuel : Nat} {m last : Matching α} (h : last ∈ Repeat once fuel m) :
    exists word, word ∈ KStar.kstar L ∧ m.rest = word ++ last.rest := by
  induction fuel generalizing m with
  | zero =>
      cases List.mem_singleton.mp h
      exact ⟨[], Language.nil_mem_kstar L, rfl⟩
  | succ fuel ih =>
      rcases List.mem_append.mp h with hmore | hdone
      · rcases List.mem_flatMap.mp hmore with ⟨next, hnext, hlast⟩
        rcases honce m next (List.mem_filter.mp hnext).1 with
          ⟨word, hword, hrest⟩
        rcases ih hlast with ⟨words, hwords, hnextRest⟩
        refine ⟨word ++ words, ?_, ?_⟩
        · rw [← Language.one_add_self_mul_kstar_eq_kstar]
          exact Or.inr (Language.append_mem_mul hword hwords)
        · rw [hrest, hnextRest, List.append_assoc]
      · cases List.mem_singleton.mp hdone
        exact ⟨[], Language.nil_mem_kstar L, rfl⟩

theorem results_sound {r : Regex α} {m last : Matching α}
    (h : last ∈ r.Results m) :
    exists word, word ∈ r.Denotes ∧ m.rest = word ++ last.rest := by
  induction r generalizing m last with
  | one p =>
      unfold Results at h
      split at h
      · cases h
      · rename_i a rest hrest
        split at h
        · rename_i hp
          cases List.mem_singleton.mp h
          exact ⟨[a], ⟨a, hp, rfl⟩, hrest⟩
        · cases h
  | empty =>
      cases List.mem_singleton.mp h
      exact ⟨[], Language.nil_mem_one, rfl⟩
  | seq first second ihfirst ihsecond =>
      rcases List.mem_flatMap.mp h with ⟨mid, hmid, hlast⟩
      rcases ihfirst hmid with ⟨w1, hw1, hrest⟩
      rcases ihsecond hlast with ⟨w2, hw2, hmidRest⟩
      refine ⟨w1 ++ w2, Language.append_mem_mul hw1 hw2, ?_⟩
      rw [hrest, hmidRest, List.append_assoc]
  | alt first second ihfirst ihsecond =>
      rcases List.mem_append.mp h with hleft | hright
      · rcases ihfirst hleft with ⟨word, hword, hrest⟩
        exact ⟨word, Or.inl hword, hrest⟩
      · rcases ihsecond hright with ⟨word, hword, hrest⟩
        exact ⟨word, Or.inr hword, hrest⟩
  | star body ih => exact repeat_sound (fun _ _ hlast => ih hlast) h
  | group n body ih =>
      rcases List.mem_map.mp h with ⟨inner, hinner, rfl⟩
      have hinnerSound := ih hinner
      exact hinnerSound

theorem repeat_complete {L : Language α}
    {once : Matching α -> List (Matching α)}
    (honce : forall m word rest, word ∈ L -> m.rest = word ++ rest ->
      exists last, last ∈ once m ∧ last.rest = rest)
    (words : List (List α)) (hwords : forall y, y ∈ words -> y ∈ L ∧ y ≠ [])
    {fuel : Nat} {m : Matching α} {rest : List α}
    (hfuel : words.flatten.length ≤ fuel)
    (hrest : m.rest = words.flatten ++ rest) :
    exists last, last ∈ Repeat once fuel m ∧ last.rest = rest := by
  induction words generalizing fuel m with
  | nil =>
      refine ⟨m, ?_, hrest⟩
      cases fuel <;> simp [Repeat]
  | cons word words ih =>
      rcases hwords word List.mem_cons_self with ⟨hword, hne⟩
      have hpos : 0 < word.length := List.length_pos_iff.mpr hne
      rw [List.flatten_cons, List.length_append] at hfuel
      rw [List.flatten_cons, List.append_assoc] at hrest
      cases fuel with
      | zero => omega
      | succ fuel =>
          rcases honce m word _ hword hrest with ⟨next, hnext, hnextRest⟩
          have hless : words.flatten.length ≤ fuel := by omega
          rcases ih (fun y hy => hwords y (List.mem_cons_of_mem _ hy)) hless
            hnextRest with ⟨last, hlast, hlastRest⟩
          refine ⟨last, ?_, hlastRest⟩
          apply List.mem_append.mpr
          apply Or.inl
          refine List.mem_flatMap.mpr ⟨next, ?_, hlast⟩
          refine List.mem_filter.mpr ⟨hnext, ?_⟩
          rw [hrest, hnextRest, List.length_append]
          simpa using hpos

theorem results_complete {r : Regex α} {m : Matching α} {word rest : List α}
    (hword : word ∈ r.Denotes) (hrest : m.rest = word ++ rest) :
    exists last, last ∈ r.Results m ∧ last.rest = rest := by
  induction r generalizing m word rest with
  | one p =>
      rcases hword with ⟨a, hp, rfl⟩
      refine ⟨{ m with rest := rest }, ?_, rfl⟩
      rw [Results, hrest]
      simp [hp]
  | empty =>
      cases (Language.mem_one word).mp hword
      exact ⟨m, List.mem_singleton.mpr rfl, hrest⟩
  | seq first second ihfirst ihsecond =>
      rcases Language.mem_mul.mp hword with ⟨w1, hw1, w2, hw2, rfl⟩
      rw [List.append_assoc] at hrest
      rcases ihfirst hw1 hrest with ⟨mid, hmid, hmidRest⟩
      rcases ihsecond hw2 hmidRest with ⟨last, hlast, hlastRest⟩
      exact ⟨last, List.mem_flatMap.mpr ⟨mid, hmid, hlast⟩, hlastRest⟩
  | alt first second ihfirst ihsecond =>
      rcases (Language.mem_add _ _ word).mp hword with hleft | hright
      · rcases ihfirst hleft hrest with ⟨last, hlast, hlastRest⟩
        exact ⟨last, List.mem_append.mpr (Or.inl hlast), hlastRest⟩
      · rcases ihsecond hright hrest with ⟨last, hlast, hlastRest⟩
        exact ⟨last, List.mem_append.mpr (Or.inr hlast), hlastRest⟩
  | star body ih =>
      rcases Language.mem_kstar_iff_exists_nonempty.mp hword with
        ⟨words, rfl, hwords⟩
      apply repeat_complete (fun _ _ _ hw hr => ih hw hr) words hwords _ hrest
      rw [hrest, List.length_append]
      exact Nat.le_add_right _ _
  | group n body ih =>
      rcases ih hword hrest with ⟨last, hlast, hlastRest⟩
      exact ⟨_, List.mem_map.mpr ⟨last, hlast, rfl⟩, hlastRest⟩

theorem fullMatch_isSome {r : Regex α} {text : List α} :
    (r.FullMatch text).isSome <-> text ∈ r.Denotes := by
  rw [FullMatch, Option.isSome_map, List.find?_isSome]
  constructor
  · intro hexists
    rcases hexists with ⟨last, hlast, hempty⟩
    rcases results_sound hlast with ⟨word, hword, hrest⟩
    rw [List.isEmpty_iff.mp hempty, List.append_nil] at hrest
    rwa [show text = word from hrest]
  · intro htext
    rcases results_complete (m := Matching.Start text) htext
      (List.append_nil text).symm with ⟨last, hlast, hrest⟩
    exact ⟨last, hlast, List.isEmpty_iff.mpr hrest⟩

/-!
# Captures
-/

def Groups : Regex α -> List Nat
  | one _ => []
  | empty => []
  | seq first second => first.Groups ++ second.Groups
  | alt first second => first.Groups ++ second.Groups
  | star body => body.Groups
  | group n body => n :: body.Groups

theorem repeat_captures {n : Nat} {once : Matching α -> List (Matching α)}
    (honce : forall m last, last ∈ once m -> last.captures n = m.captures n)
    {fuel : Nat} {m last : Matching α} (h : last ∈ Repeat once fuel m) :
    last.captures n = m.captures n := by
  induction fuel generalizing m with
  | zero => rw [List.mem_singleton.mp h]
  | succ fuel ih =>
      rcases List.mem_append.mp h with hmore | hdone
      · rcases List.mem_flatMap.mp hmore with ⟨next, hnext, hlast⟩
        rw [ih hlast, honce m next (List.mem_filter.mp hnext).1]
      · rw [List.mem_singleton.mp hdone]

theorem captures_of_not_mem_groups {r : Regex α} {n : Nat}
    {m last : Matching α} (hn : n ∉ r.Groups) (h : last ∈ r.Results m) :
    last.captures n = m.captures n := by
  induction r generalizing m last with
  | one p =>
      unfold Results at h
      split at h
      · cases h
      · split at h
        · rw [List.mem_singleton.mp h]
        · cases h
  | empty => rw [List.mem_singleton.mp h]
  | seq first second ihfirst ihsecond =>
      rcases not_or.mp (mt List.mem_append.mpr hn) with ⟨hfirst, hsecond⟩
      rcases List.mem_flatMap.mp h with ⟨mid, hmid, hlast⟩
      rw [ihsecond hsecond hlast, ihfirst hfirst hmid]
  | alt first second ihfirst ihsecond =>
      rcases not_or.mp (mt List.mem_append.mpr hn) with ⟨hfirst, hsecond⟩
      rcases List.mem_append.mp h with hleft | hright
      · exact ihfirst hfirst hleft
      · exact ihsecond hsecond hright
  | star body ih => exact repeat_captures (fun _ _ hlast => ih hn hlast) h
  | group k body ih =>
      rcases not_or.mp (mt List.mem_cons.mpr hn) with ⟨hne, hbody⟩
      rcases List.mem_map.mp h with ⟨inner, hinner, rfl⟩
      rw [← ih hbody hinner]
      exact if_neg hne

theorem captures_group {n : Nat} {body : Regex α} {m last : Matching α}
    (h : last ∈ (group n body).Results m) :
    last.captures n ∈ body.Denotes ∧
      m.rest = last.captures n ++ last.rest := by
  rcases List.mem_map.mp h with ⟨inner, hinner, rfl⟩
  rcases results_sound hinner with ⟨word, hword, hrest⟩
  have hcapture : m.rest.take (m.rest.length - inner.rest.length) = word := by
    rw [hrest, List.length_append, Nat.add_sub_cancel, List.take_left]
  simp only [Matching.Capture, if_pos, hcapture]
  exact ⟨hword, hrest⟩

theorem fullMatch_first_group {n : Nat} {body second : Regex α}
    {text : List α} {captures : Nat -> List α} (hn : n ∉ second.Groups)
    (h : (seq (group n body) second).FullMatch text = some captures) :
    captures n ∈ body.Denotes := by
  rcases Option.map_eq_some_iff.mp h with ⟨last, hfind, rfl⟩
  rcases List.mem_flatMap.mp (List.mem_of_find?_eq_some hfind) with
    ⟨mid, hmid, hlast⟩
  rw [captures_of_not_mem_groups hn hlast]
  exact (captures_group hmid).1

inductive EndsIn (n : Nat) (body : Regex α) : Regex α -> Prop where
  | group : EndsIn n body (group n body)
  | seq (first : Regex α) {second : Regex α} :
      EndsIn n body second -> EndsIn n body (seq first second)

theorem captures_of_endsIn {n : Nat} {body r : Regex α}
    {m last : Matching α} (h : EndsIn n body r) (hlast : last ∈ r.Results m) :
    last.captures n ∈ body.Denotes := by
  induction h generalizing m with
  | group => exact (captures_group hlast).1
  | seq first _ ih =>
      rcases List.mem_flatMap.mp hlast with ⟨mid, _, hmid⟩
      exact ih hmid

theorem fullMatch_last_group {n : Nat} {body r : Regex α} {text : List α}
    {captures : Nat -> List α} (hends : EndsIn n body r)
    (h : r.FullMatch text = some captures) : captures n ∈ body.Denotes := by
  rcases Option.map_eq_some_iff.mp h with ⟨last, hfind, rfl⟩
  exact captures_of_endsIn hends (List.mem_of_find?_eq_some hfind)

theorem mem_denotes_word [DecidableEq α] {word text : List α} :
    text ∈ (Word word).Denotes <-> text = word := by
  induction word generalizing text with
  | nil => exact Language.mem_one text
  | cons a word ih =>
      constructor
      · intro h
        rcases Language.mem_mul.mp h with ⟨_, ⟨b, hb, rfl⟩, rest, hrest, rfl⟩
        rw [ih.mp hrest, of_decide_eq_true hb]
        rfl
      · rintro rfl
        exact Language.append_mem_mul (a := [a])
          ⟨a, decide_eq_true rfl, rfl⟩ (ih.mpr rfl)

theorem mem_denotes_star_one {p : α -> Bool} {text : List α} :
    text ∈ (star (one p)).Denotes <-> forall a, a ∈ text -> p a = true := by
  constructor
  · intro h a ha
    rcases Language.mem_kstar.mp h with ⟨words, rfl, hwords⟩
    rcases List.mem_flatten.mp ha with ⟨word, hword, hmem⟩
    rcases hwords word hword with ⟨b, hb, rfl⟩
    rwa [List.mem_singleton.mp hmem]
  · intro h
    apply Language.mem_kstar.mpr
    refine ⟨text.map (fun a => [a]), ?_, ?_⟩
    · rw [← List.flatMap_def, List.flatMap_singleton']
    · intro word hword
      rcases List.mem_map.mp hword with ⟨a, ha, rfl⟩
      exact ⟨a, h a ha, rfl⟩

theorem mem_denotes_plus_one {p : α -> Bool} {text : List α} :
    text ∈ (Plus (one p)).Denotes <->
      text ≠ [] ∧ forall a, a ∈ text -> p a = true := by
  constructor
  · intro h
    rcases Language.mem_mul.mp h with ⟨_, ⟨a, ha, rfl⟩, rest, hrest, rfl⟩
    refine ⟨List.cons_ne_nil _ _, fun b hb => ?_⟩
    rcases List.mem_cons.mp hb with rfl | hmore
    · exact ha
    · exact mem_denotes_star_one.mp hrest b hmore
  · intro hboth
    rcases hboth with ⟨hne, hall⟩
    cases text with
    | nil => exact absurd rfl hne
    | cons a rest =>
        apply Language.append_mem_mul (a := [a])
        · exact ⟨a, hall a List.mem_cons_self, rfl⟩
        · exact mem_denotes_star_one.mpr
            (fun b hb => hall b (List.mem_cons_of_mem _ hb))

theorem mem_denotes_choice {first : Regex α} {others : List (Regex α)}
    {text : List α} : text ∈ (Choice first others).Denotes <->
      text ∈ first.Denotes ∨ exists r, r ∈ others ∧ text ∈ r.Denotes := by
  induction others generalizing first with
  | nil => simp [Choice]
  | cons second others ih =>
      show text ∈ (Choice (alt first second) others).Denotes <-> _
      rw [ih, Denotes, Language.mem_add]
      simp [or_assoc]

end Regex
end Foundation
end Wethands
