import Boron.Webhooks.Delivery

namespace Boron.Webhooks
open List

variable {net : Net} {attempt : Nat}

/-- What the loop over an answer comes to. -/
inductive PinStep (net : Net) (infos : List String) (pinned : Option String) : Except Raised String → Prop
  | vetted (address : String) (fine : ∀ addr ∈ infos, Fine net addr) (listed : address ∈ infos ∨ pinned = some address) :
    PinStep net infos pinned (.ok address)
  | refused (text : String) (spoiled : ¬ ((∀ addr ∈ infos, Fine net addr) ∧ (infos ≠ [] ∨ pinned ≠ none)))
    (readable : ∀ before addr after text, infos = before ++ addr :: after → (∀ earlier ∈ before, Fine net earlier) →
      net.ipAddress addr ≠ .error text) : PinStep net infos pinned (.error (.webhook text))
  | broke (text unread : String) (before : List String) (addr : String) (after : List String)
    (split : infos = before ++ addr :: after) (fine : ∀ earlier ∈ before, Fine net earlier)
    (unreadable : net.ipAddress addr = .error unread) : PinStep net infos pinned (.error (.other text))

theorem pin_step (host : String) (infos : List String) (pinned : Option String) :
    PinStep net infos pinned (pin net host infos pinned) := by
  induction infos generalizing pinned with
  | nil =>
    cases pinned with
    | none =>
      refine .refused _ (fun both => ?_) fun before addr after text split => ?_
      · rcases both.2 with some_info | some_pinned
        · exact some_info rfl
        · exact some_pinned rfl
      · cases before <;> cases split
    | some address => exact .vetted address nofun (.inr rfl)
  | cons addr rest ih =>
    unfold pin
    cases read : net.ipAddress addr with
    | error text => exact .broke text text [] addr rest rfl nofun read
    | ok ip =>
      dsimp only
      by_cases blocked : ipIsBlocked ip = true
      · rw [if_pos blocked]
        have spoiled : ¬ Fine net addr := by
          rintro ⟨other, same, open_⟩
          rw [read] at same
          cases same
          rw [blocked] at open_
          cases open_
        refine .refused _ (fun both => spoiled (both.1 addr mem_cons_self)) fun before other after text split fine => ?_
        cases before with
        | nil =>
          cases split
          rw [read]
          nofun
        | cons first before =>
          cases split
          exact absurd (fine addr mem_cons_self) spoiled
      · rw [if_neg blocked]
        have own : Fine net addr := ⟨ip, read, Bool.of_not_eq_true blocked⟩
        have later := ih (pinned.or (some addr))
        revert later
        generalize pin net host rest (pinned.or (some addr)) = result
        intro later
        cases later with
        | vetted address fine listed =>
          refine .vetted address (fun other member => ?_) ?_
          · rcases mem_cons.mp member with rfl | member
            · exact own
            · exact fine other member
          · rcases listed with member | same
            · exact .inl (mem_cons_of_mem addr member)
            · cases pinned with
              | none =>
                cases same
                exact .inl mem_cons_self
              | some pinned => exact .inr same
        | refused text spoiled readable =>
          refine .refused text (fun both => spoiled ⟨fun other member => both.1 other (mem_cons_of_mem addr member),
            .inr (by cases pinned <;> nofun)⟩) fun before other after text split fine => ?_
          cases before with
          | nil =>
            cases split
            rw [read]
            nofun
          | cons first before =>
            cases split
            exact readable before other after text rfl fun earlier member => fine earlier (mem_cons_of_mem addr member)
        | broke text unread before other after split fine unreadable =>
          refine .broke text unread (addr :: before) other after (by rw [split]; rfl) (fun earlier member => ?_) unreadable
          rcases mem_cons.mp member with rfl | member
          · exact own
          · exact fine earlier member

/-- What the check of a destination comes to. -/
inductive AssertStep (net : Net) (attempt : Nat) : Except Raised String → Prop
  | vetted (address : String) (infos : List String) (vetted : Vetted net attempt)
    (answer : net.getaddrinfo attempt = .ok infos) (listed : address ∈ infos) (fine : ∀ addr ∈ infos, Fine net addr) :
    AssertStep net attempt (.ok address)
  | refused (text : String) (spoiled : ¬ Vetted net attempt) (sound : ¬ Fault net attempt) :
    AssertStep net attempt (.error (.webhook text))
  | broke (text : String) (fault : Fault net attempt) : AssertStep net attempt (.error (.other text))

theorem sound_of_refused {parsed : Parsed} (parse : net.urlparse = .ok parsed) (spoiled : ¬ Vetted net attempt)
    (lookup : ∀ host text, parsed.hostname = some host → net.getaddrinfo attempt ≠ .error (.other text))
    (readable : ∀ host before addr after text, parsed.hostname = some host →
      net.getaddrinfo attempt = .ok (before ++ addr :: after) → (∀ earlier ∈ before, Fine net earlier) →
      net.ipAddress addr ≠ .error text) : ¬ Fault net attempt := by
  intro fault
  cases fault with
  | parse text error =>
    rw [parse] at error
    cases error
  | lookup other host text same named error =>
    rw [parse] at same
    cases same
    exact lookup host text named error
  | address other host text before addr after same named answer fine unreadable =>
    rw [parse] at same
    cases same
    exact readable host before addr after text named answer fine unreadable
  | port _ _ _ vetted => exact spoiled vetted
  | send _ _ _ _ vetted => exact spoiled vetted
  | close _ _ _ _ _ vetted => exact spoiled vetted

theorem assert_step : AssertStep net attempt (assertPublicDestination net attempt) := by
  unfold assertPublicDestination
  cases parse : net.urlparse with
  | error text => exact .broke text (.parse text parse)
  | ok parsed =>
    dsimp only
    cases named : parsed.hostname with
    | none =>
      have spoiled : ¬ Vetted net attempt := by
        rintro ⟨other, host, infos, same, hosted, _⟩
        rw [parse] at same
        cases same
        rw [named] at hosted
        cases hosted
      refine .refused _ spoiled (sound_of_refused parse spoiled (fun host text hosted => ?_)
        fun host before addr after text hosted => ?_)
      · rw [named] at hosted
        cases hosted
      · rw [named] at hosted
        cases hosted
    | some host =>
      cases answer : net.getaddrinfo attempt with
      | error failure =>
        cases failure with
        | expected text =>
          have spoiled : ¬ Vetted net attempt := by
            rintro ⟨_, _, infos, _, _, same, _⟩
            rw [answer] at same
            cases same
          refine .refused _ spoiled (sound_of_refused parse spoiled (fun _ _ _ error => ?_) fun _ _ _ _ _ _ same => ?_)
          · rw [answer] at error
            cases error
          · rw [answer] at same
            cases same
        | other text => exact .broke text (.lookup parsed host text parse named answer)
      | ok infos =>
        dsimp only
        have step : PinStep net infos none (pin net host infos none) := pin_step host infos none
        revert step
        generalize pin net host infos none = result
        intro step
        cases step with
        | vetted address fine listed =>
          have member : address ∈ infos := by
            rcases listed with member | absent
            · exact member
            · cases absent
          exact .vetted address infos ⟨parsed, host, infos, parse, named, answer, ne_nil_of_mem member, fine⟩ answer member fine
        | refused text spoils readable =>
          have spoiled : ¬ Vetted net attempt := by
            rintro ⟨_, _, others, _, _, same, some_info, fine⟩
            rw [answer] at same
            cases same
            exact spoils ⟨fine, .inl some_info⟩
          refine .refused _ spoiled (sound_of_refused parse spoiled (fun _ _ _ error => ?_)
            fun _ before addr after unread _ same fine => ?_)
          · rw [answer] at error
            cases error
          · rw [answer] at same
            cases same
            exact readable before addr after unread rfl fine
        | broke text unread before addr after split fine unreadable =>
          rw [split] at answer
          exact .broke text (.address parsed host unread before addr after parse named answer fine unreadable)

/-- The address of a post is one of the answer of its own attempt, and all of them are public. -/
def Aimed (net : Net) (post : Post) : Prop :=
  ∃ infos, net.getaddrinfo post.attempt = .ok infos ∧ post.address ∈ infos ∧
    ∀ addr ∈ infos, ∃ ip, net.ipAddress addr = .ok ip ∧ ip.Public

def Post.Accepted (post : Post) : Prop := ∃ status, post.status = some status ∧ accepted status

inductive PostStep (net : Net) (attempt : Nat) : List Post × Except Raised Nat → Prop
  | refused (text : String) (sound : ¬ Fault net attempt) (unanswered : ¬ Answered net attempt) :
    PostStep net attempt ([], .error (.webhook text))
  | broke (posts : List Post) (text : String) (aimed : ∀ post ∈ posts, Aimed net post) (one : posts.length ≤ 1)
    (fault : Fault net attempt) : PostStep net attempt (posts, .error (.other text))
  | answered (post : Post) (status : Nat) (aimed : Aimed net post) (own : post.status = some status)
    (good : accepted status) (sound : ¬ Fault net attempt) (answer : Answered net attempt) :
    PostStep net attempt ([post], .ok status)
  | declined (post : Post) (status : Nat) (aimed : Aimed net post) (own : ¬ post.Accepted) (bad : ¬ accepted status)
    (sound : ¬ Fault net attempt) (unanswered : ¬ Answered net attempt) : PostStep net attempt ([post], .ok status)
  | unheard (post : Post) (text : String) (aimed : Aimed net post) (own : ¬ post.Accepted)
    (sound : ¬ Fault net attempt) (unanswered : ¬ Answered net attempt) :
    PostStep net attempt ([post], .error (.http text))
  | late (post : Post) (text : String) (aimed : Aimed net post) (own : post.Accepted) (fault : Fault net attempt) :
    PostStep net attempt ([post], .error (.http text))

theorem sound_of_vetted {parsed : Parsed} {port : Option Nat} (vetted : Vetted net attempt)
    (parse : net.urlparse = .ok parsed) (numbered : parsed.port = .ok port)
    (sent : ∀ text, net.send attempt ≠ .failed (.other text))
    (closed : ∀ status error, net.send attempt = .response status (some error) →
      ¬ (accepted status ∨ ∃ text, error = .other text)) : ¬ Fault net attempt := by
  obtain ⟨_, _, infos, _, _, answer, _, fine⟩ := vetted
  intro fault
  cases fault with
  | parse text error =>
    rw [parse] at error
    cases error
  | lookup _ _ _ _ _ error =>
    rw [answer] at error
    cases error
  | address _ _ unread before addr after _ _ same _ unreadable =>
    rw [answer] at same
    cases same
    obtain ⟨ip, read, _⟩ := fine addr (mem_append_right _ mem_cons_self)
    rw [unreadable] at read
    cases read
  | port _ text _ _ same error =>
    rw [parse] at same
    cases same
    rw [numbered] at error
    cases error
  | send _ _ text _ _ _ _ failed => exact sent text failed
  | close _ _ status error _ _ _ _ response late => exact closed status error response late

theorem post_step (tried : 0 < attempt) : PostStep net attempt (pinnedPost net attempt) := by
  unfold pinnedPost
  cases parse : net.urlparse with
  | error text => exact .broke [] text nofun (Nat.zero_le 1) (.parse text parse)
  | ok parsed =>
    have step : AssertStep net attempt (assertPublicDestination net attempt) := assert_step
    revert step
    generalize assertPublicDestination net attempt = result
    intro step
    cases step with
    | refused text spoiled sound => exact .refused text sound fun ⟨_, _, _, _, _, vetted, _⟩ => spoiled vetted
    | broke text fault => exact .broke [] text nofun (Nat.zero_le 1) fault
    | vetted address infos vetted answer listed fine =>
      dsimp only
      cases numbered : parsed.port with
      | error text => exact .broke [] text nofun (Nat.zero_le 1) (.port parsed text tried vetted parse numbered)
      | ok port =>
        dsimp only
        generalize own : (Post.mk attempt address _ parsed.netloc _ (net.send attempt)) = post
        have sent : post.sent = net.send attempt := by
          rw [← own]
        have aimed : Aimed net post := by
          rw [← own]
          refine ⟨infos, answer, listed, fun addr member => ?_⟩
          obtain ⟨ip, read, open_⟩ := fine addr member
          exact ⟨ip, read, public_of_open open_⟩
        cases result : net.send attempt with
        | failed error =>
          have silent : ¬ post.Accepted := by
            rintro ⟨status, got, _⟩
            unfold Post.status at got
            rw [sent, result] at got
            cases got
          have unanswered : ¬ Answered net attempt := by
            rintro ⟨_, _, _, _, _, _, same, _⟩
            rw [result] at same
            cases same
          cases error with
          | expected text =>
            refine .unheard post text aimed silent (sound_of_vetted vetted parse numbered (fun other same => ?_)
              fun _ _ same => ?_) unanswered
            · rw [result] at same
              cases same
            · rw [result] at same
              cases same
          | other text =>
            exact .broke [post] text (fun _ member => mem_singleton.mp member ▸ aimed) (Nat.le_refl 1)
              (.send parsed port text tried vetted parse numbered result)
        | response status close =>
          have got : post.status = some status := by
            unfold Post.status
            rw [sent, result]
          cases close with
          | none =>
            have sound : ¬ Fault net attempt := by
              refine sound_of_vetted vetted parse numbered (fun text same => ?_) fun _ _ same => ?_
              · rw [result] at same
                cases same
              · rw [result] at same
                cases same
            by_cases good : accepted status
            · exact .answered post status aimed got good sound ⟨parsed, port, status, parse, numbered, vetted, result, good⟩
            · refine .declined post status aimed ?_ good sound ?_
              · rintro ⟨other, same, fine⟩
                rw [got] at same
                cases same
                exact good fine
              · rintro ⟨_, _, other, _, _, _, same, fine⟩
                rw [result] at same
                cases same
                exact good fine
          | some error =>
            cases error with
            | other text =>
              exact .broke [post] text (fun _ member => mem_singleton.mp member ▸ aimed) (Nat.le_refl 1)
                (.close parsed port status (.other text) tried vetted parse numbered result (.inr ⟨text, rfl⟩))
            | expected text =>
              by_cases good : accepted status
              · exact .late post text aimed ⟨status, got, good⟩
                  (.close parsed port status (.expected text) tried vetted parse numbered result (.inl good))
              · refine .unheard post text aimed ?_ (sound_of_vetted vetted parse numbered (fun _ same => ?_)
                  fun other error same => ?_) ?_
                · rintro ⟨other, same, fine⟩
                  rw [got] at same
                  cases same
                  exact good fine
                · rw [result] at same
                  cases same
                · rw [result] at same
                  cases same
                  rintro (fine | ⟨text, same⟩)
                  · exact good fine
                  · cases same
                · rintro ⟨_, _, _, _, _, _, same, _⟩
                  rw [result] at same
                  cases same

/-- A delivery has ended: successful exactly when the last response was a 2xx, failed otherwise, and nothing
was sent after a 2xx. -/
structure Settles (outcome : Outcome) : Prop where
  ended : outcome.delivery.status ≠ .pending
  success : outcome.delivery.status = .success ↔
    ∃ status, (outcome.posts.filterMap Post.status).getLast? = some status ∧ accepted status
  last : ∀ before post after, outcome.posts = before ++ post :: after → post.Accepted → after = []

def Clean (net : Net) (first last : Nat) : Prop :=
  ∀ k, first ≤ k → k < last → (∀ j, first ≤ j → j < k → ¬ Answered net j) → ¬ Fault net k

theorem clean_succ {left : Nat} : Clean net attempt (attempt + (left + 1)) ↔
    ¬ Fault net attempt ∧ (Answered net attempt ∨ Clean net (attempt + 1) (attempt + 1 + left)) := by
  constructor
  · intro clean
    refine ⟨clean attempt (Nat.le_refl attempt) (by omega) fun j from_ before => by omega, ?_⟩
    by_cases answered : Answered net attempt
    · exact .inl answered
    · refine .inr fun k after within earlier => clean k (by omega) (by omega) fun j from_ before => ?_
      by_cases own : j = attempt
      · rw [own]
        exact answered
      · exact earlier j (by omega) before
  · rintro ⟨sound, later⟩ k from_ within earlier
    by_cases own : k = attempt
    · rw [own]
      exact sound
    · rcases later with answered | clean
      · exact absurd answered (earlier attempt (Nat.le_refl attempt) (by omega))
      · exact clean k (by omega) (by omega) fun j after before => earlier j (by omega) before

theorem settles_after {post : Post} {outcome : Outcome} (own : ¬ post.Accepted) :
    Settles (outcome.after [post]) ↔ Settles outcome := by
  have responses : (∃ status, (([post] ++ outcome.posts).filterMap Post.status).getLast? = some status ∧ accepted status) ↔
      ∃ status, (outcome.posts.filterMap Post.status).getLast? = some status ∧ accepted status := by
    rw [filterMap_append, getLast?_append]
    cases last : (outcome.posts.filterMap Post.status).getLast? with
    | some status => rfl
    | none =>
      refine ⟨?_, ?_⟩
      · rintro ⟨status, got, good⟩
        cases response : post.status with
        | none =>
          rw [filterMap_cons_none response] at got
          cases got
        | some other =>
          rw [filterMap_cons_some response] at got
          cases got
          exact absurd ⟨_, response, good⟩ own
      · rintro ⟨_, got, _⟩
        cases got
  constructor
  · rintro ⟨ended, success, last⟩
    exact ⟨ended, success.trans responses, fun before other after split good =>
      last (post :: before) other after (congrArg (post :: ·) split) good⟩
  · rintro ⟨ended, success, last⟩
    refine ⟨ended, success.trans responses.symm, fun before other after split good => ?_⟩
    cases before with
    | nil =>
      have same : post = other := (cons.inj split).1
      exact absurd (same ▸ good) own
    | cons first before => exact last before other after (cons.inj split).2 good

structure Ran (net : Net) (attempt left : Nat) (outcome : Outcome) : Prop where
  aimed : ∀ post ∈ outcome.posts, Aimed net post
  bounded : outcome.posts.length ≤ left
  sent : outcome.delivery.status = .success → outcome.posts ≠ []
  settles : Clean net attempt (attempt + left) ↔ Settles outcome

theorem attempts_ran {left : Nat} {delivery : Delivery} (pending : delivery.status = .pending) (tried : 0 < attempt) :
    Ran net attempt left (attempts net left attempt delivery) := by
  induction left generalizing attempt delivery with
  | zero =>
    refine ⟨nofun, Nat.le_refl 0, nofun, fun _ => ⟨nofun, ⟨nofun, ?_⟩, fun before post after split => ?_⟩, fun _ k from_ within => ?_⟩
    · rintro ⟨_, got, _⟩
      cases got
    · cases before <;> cases split
    · exact absurd within (Nat.not_lt.mpr from_)
  | succ left ih =>
    have step : PostStep net attempt (pinnedPost net attempt) := post_step tried
    have go : ∀ (posts : List Post) (later : Delivery), later.status = .pending → (∀ post ∈ posts, Aimed net post) →
        posts.length ≤ 1 → ¬ Fault net attempt → ¬ Answered net attempt →
        (∀ outcome, Settles (Outcome.after posts outcome) ↔ Settles outcome) →
        Ran net attempt (left + 1) ((attempts net left (attempt + 1) later).after posts) := by
      intro posts later still aimed one sound unanswered same
      obtain ⟨rest, bounded, sent, settles⟩ := @ih (attempt + 1) later still (Nat.succ_pos attempt)
      refine ⟨fun post member => ?_, ?_, fun success => ?_, ?_⟩
      · rcases mem_append.mp member with own | after
        · exact aimed post own
        · exact rest post after
      · unfold Outcome.after
        rw [length_append]
        omega
      · intro empty
        exact sent success (append_eq_nil_iff.mp empty).2
      · rw [clean_succ, same, ← settles]
        exact ⟨fun both => both.2.resolve_left unanswered, fun clean => ⟨sound, .inr clean⟩⟩
    unfold attempts
    revert step
    generalize pinnedPost net attempt = result
    intro step
    cases step with
    | refused text sound unanswered =>
      exact go [] _ pending nofun (Nat.zero_le 1) sound unanswered fun outcome => Iff.rfl
    | declined post status aimed own bad sound unanswered =>
      dsimp only
      rw [if_neg (show ¬ (200 ≤ status ∧ status < 300) from bad)]
      exact go [post] _ pending (fun _ member => mem_singleton.mp member ▸ aimed) (Nat.le_refl 1) sound unanswered
        fun outcome => settles_after own
    | unheard post text aimed own sound unanswered =>
      exact go [post] _ pending (fun _ member => mem_singleton.mp member ▸ aimed) (Nat.le_refl 1) sound unanswered
        fun outcome => settles_after own
    | broke posts text aimed one fault =>
      refine ⟨aimed, Nat.le_trans one (Nat.succ_le_succ (Nat.zero_le left)), fun success => ?_, fun clean => ?_,
        fun settled => absurd pending settled.ended⟩
      · exact absurd (pending.symm.trans success) nofun
      · exact absurd fault (clean_succ.mp clean).1
    | answered post status aimed own good sound answer =>
      dsimp only
      rw [if_pos (show 200 ≤ status ∧ status < 300 from good)]
      refine ⟨fun _ member => mem_singleton.mp member ▸ aimed, Nat.succ_le_succ (Nat.zero_le left), fun _ => cons_ne_nil _ _,
        fun _ => ⟨nofun, ⟨fun _ => ⟨status, ?_, good⟩, fun _ => rfl⟩, fun before other after split _ => ?_⟩,
        fun _ => clean_succ.mpr ⟨sound, .inl answer⟩⟩
      · rw [filterMap_cons_some own]
        rfl
      · cases before with
        | nil => exact (cons.inj split).2.symm
        | cons first before =>
          have rest : [] = before ++ other :: after := (cons.inj split).2
          cases before <;> cases rest
    | late post text aimed own fault =>
      obtain ⟨rest, bounded, sent, settles⟩ :=
        @ih (attempt + 1) { delivery with attemptCount := attempt, error := some text } pending (Nat.succ_pos attempt)
      refine ⟨fun other member => ?_, ?_, fun _ => cons_ne_nil _ _, fun clean => absurd fault (clean_succ.mp clean).1,
        fun settled => ?_⟩
      · rcases mem_cons.mp member with rfl | member
        · exact aimed
        · exact rest other member
      · exact Nat.succ_le_succ bounded
      · have empty := settled.last [] post _ rfl own
        have reply : ∃ status, ([post].filterMap Post.status).getLast? = some status ∧ accepted status := by
          obtain ⟨status, got, good⟩ := own
          rw [filterMap_cons_some got]
          exact ⟨status, rfl, good⟩
        have success := settled.success
        unfold Outcome.after at success
        dsimp only at success
        have none_left : (attempts net left (attempt + 1)
            { delivery with attemptCount := attempt, error := some text }).posts = [] := empty
        rw [none_left] at success
        exact absurd none_left (sent (success.mpr reply))

def demoNet : Net :=
  { url := "https://hooks..example.com/"
    urlparse := .ok { hostname := some "hooks..example.com", https := true, netloc := "hooks..example.com", port := .ok none }
    getaddrinfo := fun _ => .error (.other "encoding with 'idna' codec failed (UnicodeError: label empty or too long)")
    ipAddress := fun addr => .error ("'" ++ addr ++ "' does not appear to be an IPv4 or IPv6 address")
    send := fun _ => .failed (.expected "") }

end Boron.Webhooks
