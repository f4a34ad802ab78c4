import Liveness.Proofs.Http.Indifference
import Liveness.Proofs.Probe.Fetch
import Liveness.Proofs.Probe.Redirects

/-! Runs of one probe. What a run leaves behind is a connection, with what has come on it and is
not read, and the replies that it has not taken. The first of these never shows in the next
report. -/

namespace Liveness.Probe

open Http

/-- One run after another, each with a stamp of its own. -/
def reportAll {m : Type → Type} [Monad m] {κ : Type} (p : Probe) (w : Wire m κ)
    (stamps : List Stamp) : m (List Report) :=
  stamps.mapM fun stamp => p.report w (pure (pure stamp))

/-- A run takes some of the replies, and a run alone over a network with just these takes them
all and has the same report but for its stamp. -/
def AsAlone (p : Probe) (n : Network) (l : Link) (report : Report) (l' : Link) : Prop :=
  ∃ part, l.network.replies = part ++ l'.network.replies ∧
    ∀ stamp, ∃ left,
      p.report Link.wire (pure (pure stamp)) (.ofNetwork { n with replies := part }) =
        some ({ report with stamp }, left) ∧ left.network.replies = []

section

variable {p : Probe} {s : Supply} {fault? : Address → Option ConnectFault} {fine : Link → Prop}
  {S : Link → Link → Prop} {l l' : Link} {stamp : Stamp} {report : Report}

theorem stamp_ofOutcome (stamp : Stamp) (target : Url) (checks : List Check) (o : Outcome) :
    (Report.ofOutcome stamp target checks o).stamp = stamp := by
  cases o <;> rfl

theorem ofOutcome_with_stamp (stamp stamp' : Stamp) (target : Url) (checks : List Check)
    (o : Outcome) : { Report.ofOutcome stamp target checks o with stamp := stamp' } =
      Report.ofOutcome stamp' target checks o := by
  cases o <;> rfl

/-- What no fetch tells apart no report does. -/
theorem report_indifferent (h : Indifferent s fault? fine S) (hl : Over fault? l)
    (hr : p.report s.wire (pure (pure stamp)) l = some (report, l')) :
    Over fault? l' ∧ report.stamp = stamp ∧ (fine l' → fine l ∧ ∀ stamp' m, S l m →
      ∃ m', p.report s.wire (pure (pure stamp')) m =
        some ({ report with stamp := stamp' }, m') ∧ S l' m') := by
  rw [report_link, Option.map_eq_some_iff] at hr
  obtain ⟨⟨x, l₁⟩, hfetch, heq⟩ := hr
  cases heq
  obtain ⟨hl', -, hthen⟩ := h.fetch p.client p.config.targetUrl l x l₁ hl hfetch
  refine ⟨hl', stamp_ofOutcome .., fun hfine => ?_⟩
  obtain ⟨hfine', hall⟩ := hthen hfine
  refine ⟨hfine', fun stamp' m hs => ?_⟩
  obtain ⟨m', hm, hs'⟩ := hall m hs
  refine ⟨m', ?_, hs'⟩
  rw [report_link, hm, ofOutcome_with_stamp]
  rfl

/-- One run, wherever a history has led. -/
theorem asAlone_of_report {n : Network} (hl : Over n.fault? l)
    (hr : p.report Link.wire (pure (pure stamp)) l = some (report, l')) :
    AsAlone p n l report l' := by
  obtain ⟨-, -, hthen⟩ :=
    report_indifferent (s := .listed) (indifferent_shorter _ l'.network.replies) hl hr
  obtain ⟨⟨part, hpart⟩, hall⟩ := hthen (List.suffix_refl _)
  refine ⟨part, hpart.symm, fun stamp' => ?_⟩
  have hshort : Shorter n.fault? l'.network.replies l (.ofNetwork { n with replies := part }) :=
    ⟨over_ofNetwork { n with replies := part }, hpart.symm⟩
  obtain ⟨left, halone, hleft⟩ := hall stamp' _ hshort
  exact ⟨left, halone, List.self_eq_append_left.1 hleft.replies⟩

theorem reportAll_nil (w : Wire (StateT Link Option) Unit) (l : Link) :
    p.reportAll w [] l = some ([], l) := rfl

theorem reportAll_cons {w : Wire (StateT Link Option) Unit} {stamps : List Stamp}
    {reports : List Report} :
    p.reportAll w (stamp :: stamps) l = some (reports, l') ↔
      ∃ report l₁ others, p.report w (pure (pure stamp)) l = some (report, l₁) ∧
        p.reportAll w stamps l₁ = some (others, l') ∧ reports = report :: others := by
  rw [reportAll, List.mapM_cons]
  simp only [Link.bind_apply, Option.bind_eq_some_iff]
  constructor
  · intro h
    obtain ⟨⟨report, l₁⟩, hr, ⟨others, l₂⟩, hall, heq⟩ := h
    cases heq
    exact ⟨report, l₁, others, hr, hall, rfl⟩
  · intro h
    obtain ⟨report, l₁, others, hr, hall, rfl⟩ := h
    exact ⟨(report, l₁), hr, (others, l'), hall, rfl⟩

/-- Each report of some runs is that of a run over the link that the runs before it leave. -/
theorem getElem?_reportAll (stamps : List Stamp) (reports : List Report) (l : Link)
    (hl : Over fault? l) (h : p.reportAll Link.wire stamps l = some (reports, l'))
    {k : Nat} (hk : reports[k]? = some report) :
    stamps[k]? = some report.stamp ∧ ∃ before l₁ l₂, Over fault? l₁ ∧
      p.reportAll Link.wire (stamps.take k) l = some (before, l₁) ∧
      p.report Link.wire (pure (pure report.stamp)) l₁ = some (report, l₂) := by
  induction stamps generalizing l k reports with
  | nil =>
    cases h
    cases hk
  | cons stamp stamps ih =>
    obtain ⟨first, l₁, others, hr, hall, rfl⟩ := reportAll_cons.1 h
    obtain ⟨hl₁, hstamp, -⟩ :=
      report_indifferent (s := .listed) (indifferent_shorter fault? []) hl hr
    cases k with
    | zero =>
      cases hk
      rw [hstamp]
      exact ⟨rfl, [], l, l₁, hl, rfl, hr⟩
    | succ k =>
      obtain ⟨hs, before, m₁, m₂, hm₁, hbefore, hrun⟩ := ih others l₁ hl₁ hall hk
      refine ⟨hs, first :: before, m₁, m₂, hm₁, ?_, hrun⟩
      exact reportAll_cons.2 ⟨first, l₁, before, hr, hbefore, rfl⟩

theorem length_reportAll (stamps : List Stamp) (reports : List Report) (l : Link)
    (h : p.reportAll Link.wire stamps l = some (reports, l')) :
    reports.length = stamps.length := by
  induction stamps generalizing l reports with
  | nil =>
    cases h
    rfl
  | cons stamp stamps ih =>
    obtain ⟨first, l₁, others, -, hall, rfl⟩ := reportAll_cons.1 h
    exact congrArg (· + 1) (ih others l₁ hall)

/-- Where a run ends, all that come after it on the same server do, and agree with it. -/
theorem reportAll_endless {reply : Reply} (hl : Over fault? l)
    (hr : p.report (Supply.endless fun _ => reply).wire (pure (pure stamp)) l =
      some (report, l')) (stamps : List Stamp) (m : Link) (hm : Over fault? m) :
    ∃ m', p.reportAll (Supply.endless fun _ => reply).wire stamps m =
      some (stamps.map fun stamp => { report with stamp }, m') := by
  induction stamps generalizing m with
  | nil => exact ⟨m, rfl⟩
  | cons stamp' stamps ih =>
    have h := indifferent_endless fault? reply
    obtain ⟨-, -, hthen⟩ := report_indifferent h hl hr
    obtain ⟨m₁, hm₁, hplace⟩ := (hthen trivial).2 stamp' m hm
    obtain ⟨m', hm'⟩ := ih m₁ hplace
    exact ⟨m', reportAll_cons.2 ⟨_, m₁, _, hm₁, hm', rfl⟩⟩

end

/-- The runs of one probe are independent. Whatever the server sends and whether it closes its
connections or keeps them, the report of each run is, but for its stamp, the one that a probe
of its own gives over a network with just the replies that the run takes. A server that
always gives the same reply has equal reports. -/
theorem runs_independent (p : Probe) (n : Network) (stamps : List Stamp) :
    (∀ reports l', p.reportAll Link.wire stamps (.ofNetwork n) = some (reports, l') →
      reports.length = stamps.length ∧
      ∀ (k : Nat) (report : Report), reports[k]? = some report →
        stamps[k]? = some report.stamp ∧
        ∃ before l₁ l₂,
          p.reportAll Link.wire (stamps.take k) (.ofNetwork n) = some (before, l₁) ∧
          p.report Link.wire (pure (pure report.stamp)) l₁ = some (report, l₂) ∧
          AsAlone p n l₁ report l₂) ∧
    ∀ reply stamp report l',
      p.report (Supply.endless fun _ => reply).wire (pure (pure stamp)) (.ofNetwork n) =
        some (report, l') →
      ∃ l'', p.reportAll (Supply.endless fun _ => reply).wire stamps (.ofNetwork n) =
        some (stamps.map fun stamp => { report with stamp }, l'') := by
  constructor
  · intro reports l' h
    refine ⟨length_reportAll stamps reports _ h, fun k report hk => ?_⟩
    obtain ⟨hs, before, l₁, l₂, hl₁, hbefore, hrun⟩ :=
      getElem?_reportAll stamps reports _ (over_ofNetwork n) h hk
    exact ⟨hs, before, l₁, l₂, hbefore, hrun, asAlone_of_report hl₁ hrun⟩
  · intro reply stamp report l' hr
    exact reportAll_endless (over_ofNetwork n) hr stamps _ (over_ofNetwork n)

/-- Another response stands behind the first, for which nobody has asked. -/
def surplus : Reply := ⟨ok.bytes ++ notFound.bytes, false⟩

def kept : Reply := ⟨ok.bytes, false⟩

/-- How `ok` arrives, with more behind it on a connection that stays open. -/
def okArrival (more : Text.Bytes) : Arrival Unit :=
  ⟨⟨(), localAddress, Text.Utf8.encode "ok" ++ more, false⟩,
    ⟨true, 200, [⟨"content-length", Text.Utf8.encode "2"⟩]⟩, .length 2⟩

def okReport (stamp : Stamp) : Report :=
  .ofOutcome stamp Config.defaultTarget Check.defaults
    (.ok ⟨(200 : Nat).toUInt16, Text.Utf8.encode "ok", 0⟩)

theorem okReport_with_stamp (stamp stamp' : Stamp) :
    { okReport stamp with stamp := stamp' } = okReport stamp' :=
  ofOutcome_with_stamp stamp stamp' _ _ _

/-- A run whose reply is `ok` and more. The connection is kept with what is behind the response. -/
theorem report_of_ok {s : Supply} {l : Link} (more : Text.Bytes) {replies : List Reply}
    (hf : l.network.fault? localAddress = none)
    (hl : (s.stock l).network.replies = ⟨ok.bytes ++ more, false⟩ :: replies) (stamp : Stamp) :
    (withClient Config.default Client.plain).report s.wire (pure (pure stamp)) l =
      some (okReport stamp,
        ⟨⟨l.network.fault?, replies⟩,
          ⟨(), localAddress, more, false⟩ :: ((s.stock l).without localAddress).idle,
          l.received ++ [firstRequest]⟩) := by
  have hread : readFinalHead (ok.bytes ++ more) = .done (⟨true, 200,
      [⟨"content-length", Text.Utf8.encode "2"⟩]⟩, .length 2)
        (Text.Utf8.encode "ok" ++ more) := by
    apply readFinalHead_stable
    rw [readFinalHead]
    rfl
  have hfault : (s.stock l).network.fault? localAddress = none := by
    rw [Supply.fault?_stock, hf]
  have hx : s.wire.exchange none firstRequest l = some (.ok (okArrival more),
      ⟨⟨l.network.fault?, replies⟩, ((s.stock l).without localAddress).idle,
        l.received ++ [firstRequest]⟩) := by
    rw [← s.fault?_stock l, ← s.received_stock l]
    exact Link.exchange_of_reply (r := firstRequest) hfault address?_defaultTarget hl hread
  exact report_of_direct (w := s.wire) rfl (p := withClient Config.default Client.plain)
    firstRequest?_plain hx rfl (Link.receive_apply none (okArrival more) _) stamp

/-- What stands behind the first response is left on the connection that is kept, and does not
show in the second report, which is that of a run over the second reply alone. -/
theorem runs_independent_surplus :
    let p := withClient Config.default Client.plain
    let stamp : Stamp := ⟨"", "", 0⟩
    let l := answering [surplus, kept]
    ∃ between l' left l'',
      p.report Link.wire (pure (pure stamp)) l = some (okReport stamp, between) ∧
      between.idle = [⟨(), localAddress, notFound.bytes, false⟩] ∧
      p.reportAll Link.wire [stamp, stamp] l = some ([okReport stamp, okReport stamp], l') ∧
      p.report Link.wire (pure (pure stamp)) (answering [kept]) = some (okReport stamp, left) ∧
      p.reportAll (Supply.endless fun _ => kept).wire [stamp, stamp] l =
        some ([okReport stamp, okReport stamp], l'') := by
  intro p stamp l
  let between : Link :=
    ⟨(answering [kept]).network, [⟨(), localAddress, notFound.bytes, false⟩], [firstRequest]⟩
  have hfirst : p.report Link.wire (pure (pure stamp)) l = some (okReport stamp, between) :=
    report_of_ok (s := .listed) notFound.bytes (fault?_answering _) rfl stamp
  have hsecond := report_of_ok (s := .listed) (l := between) [] (fault?_answering _) rfl stamp
  have hsame := report_of_ok (s := .endless fun _ => kept) (l := l) [] (fault?_answering _) rfl
    stamp
  have hall : p.reportAll Link.wire [stamp, stamp] l =
      some ([okReport stamp, okReport stamp], _) :=
    reportAll_cons.2 ⟨_, between, _, hfirst,
      reportAll_cons.2 ⟨_, _, [], hsecond, reportAll_nil .., rfl⟩, rfl⟩
  have hindependent := runs_independent p (answering [surplus, kept]).network [stamp, stamp]
  obtain ⟨-, hruns⟩ := hindependent.1 _ _ hall
  obtain ⟨-, before, l₁, l₂, hbefore, hrun, part, hpart, halone⟩ := hruns 1 (okReport stamp) rfl
  -- the second run takes the second reply
  cases hbefore.symm.trans (reportAll_cons.2 ⟨_, between, [], hfirst, reportAll_nil .., rfl⟩)
  cases hrun.symm.trans hsecond
  rw [List.append_nil] at hpart
  cases hpart
  obtain ⟨left, halone, -⟩ := halone stamp
  obtain ⟨l'', hsame⟩ := hindependent.2 kept stamp (okReport stamp) _ hsame
  rw [okReport_with_stamp] at halone
  simp only [List.map_cons, List.map_nil, okReport_with_stamp] at hsame
  exact ⟨between, _, left, l'', hfirst, rfl, hall, halone, hsame⟩

end Liveness.Probe
