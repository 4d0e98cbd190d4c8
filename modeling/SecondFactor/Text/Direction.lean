import SecondFactor.Text.RunTable

/-!
The direction a character is written in, as far as the rules for labels tell characters apart.
-/

namespace SecondFactor

inductive Direction where
  | leftToRight
  | rightToLeft
  | arabicLetter
  | arabicNumber
  | europeanNumber
  | europeanSeparator
  | commonSeparator
  | europeanTerminator
  | neutral
  | boundary
  | mark
  | other
deriving DecidableEq, Repr

namespace Direction

/-- In the order in which the table numbers them. -/
def all : List Direction :=
  [.leftToRight, .rightToLeft, .arabicLetter, .arabicNumber, .europeanNumber, .europeanSeparator,
    .commonSeparator, .europeanTerminator, .neutral, .boundary, .mark, .other]

def table : RunTable Nat :=
  .ofText <| String.join
    ["9.9.5.b.e.9.5.b.2.8.3.7.5.8.1.5.1.6.1.5.2.6.a.4.1.6.6.8.q.0.6.8.q.0.4.8.6.9.1.b.q.9.1.6.1.8.4.",
    "7.4.8.1.0.2.8.1.9.2.8.2.7.2.4.1.8.1.0.3.8.1.4.1.0.5.8.n.0.1.8.v.0.1.8.e1.0.2.8.7.0.e.8.2.0.e.8",
    ".5.0.9.8.1.0.h.8.3g.a.4.0.2.8.8.0.1.8.5.0.2.8.1.0.1.8.3e.0.1.8.4c.0.7.a.80.0.1.8.2.0.2.8.1.7.1",
    ".1.1d.a.1.1.1.a.1.1.2.a.1.1.2.a.1.1.1.a.1o.1.6.3.2.8.1.2.2.7.1.2.1.6.1.2.2.8.b.a.1g.2.l.a.a.3.",
    "1.7.2.3.3.2.1.a.35.2.7.a.1.3.1.8.6.a.2.2.2.a.1.8.4.a.2.2.a.4.n.2.1.a.u.2.r.a.2r.2.b.a.f.2.1b.1",
    ".9.a.2.1.4.8.3.1.1.a.o.1.4.a.1.1.9.a.1.1.3.a.1.1.5.a.1b.1.3.a.4.1.1g.2.2.3.6.2.8.a.1a.2.o.a.1.",
    "3.10.a.1n.0.1.a.1.0.1.a.4.0.8.a.4.0.1.a.3.0.7.a.a.0.2.a.t.0.1.a.1q.0.1.a.4.0.4.a.8.0.1.a.k.0.2",
    ".a.e.0.2.7.7.0.1.7.2.0.1.a.2.0.2.a.1p.0.1.a.4.0.2.a.4.0.2.a.2.0.3.a.3.0.1.a.u.0.2.a.3.0.1.a.b.",
    "0.2.a.1p.0.1.a.4.0.5.a.1.0.2.a.4.0.1.a.k.0.2.a.d.0.1.7.8.0.6.a.1.0.1.a.1q.0.1.a.2.0.1.a.1.0.4.",
    "a.8.0.1.a.7.0.2.a.b.0.2.a.u.0.1.a.1t.0.1.a.c.0.1.a.15.0.6.8.1.7.1.8.5.0.1.a.3.0.1.a.1n.0.1.a.1",
    ".0.3.a.5.0.3.a.1.0.4.a.7.0.2.a.b.0.2.a.k.0.7.8.2.0.1.a.1q.0.1.a.f.0.2.a.k.0.2.a.s.0.2.a.1p.0.2",
    ".a.4.0.4.a.8.0.1.a.k.0.2.a.t.0.1.a.28.0.1.a.7.0.3.a.1.0.1.a.2q.0.1.a.2.0.7.a.4.0.1.7.7.0.8.a.3",
    "2.0.1.a.2.0.9.a.b.0.7.a.29.0.2.a.r.0.1.a.1.0.1.a.1.0.1.a.4.8.1j.0.e.a.1.0.5.a.1.0.2.a.5.0.b.a.",
    "1.0.14.a.9.0.1.a.36.0.4.a.1.0.6.a.1.0.2.a.2.0.2.a.p.0.2.a.4.0.3.a.g.0.4.a.d.0.1.a.2.0.2.a.6.0.",
    "1.a.f.0.1.a.lv.0.3.a.1g.0.a.8.36.0.1.8.jv.0.1.b.q.0.2.8.3l.0.3.a.t.0.2.a.u.0.2.a.u.0.2.a.20.0.",
    "2.a.1.0.7.a.8.0.1.a.2.0.b.a.7.0.1.7.1.0.1.a.i.0.a.8.6.0.b.8.3.a.1.9.1.a.3l.0.2.a.12.0.1.a.3m.0",
    ".3.a.4.0.2.a.9.0.1.a.6.0.3.a.4.0.1.8.3.0.2.8.4o.0.12.8.n.0.2.a.2.0.1.a.1q.0.1.a.1.0.7.a.1.0.1.",
    "a.1.0.1.a.2.0.8.a.6.0.a.a.2.0.1.a.1g.0.v.a.1h.0.4.a.1g.0.1.a.1.0.5.a.1.0.1.a.5.0.1.a.18.0.9.a.",
    "c.0.2.a.10.0.4.a.2.0.2.a.1.0.3.a.1o.0.1.a.1.0.2.a.3.0.1.a.1.0.3.a.1q.0.8.a.2.0.2.a.4o.0.3.a.1.",
    "0.d.a.1.0.7.a.4.0.1.a.6.0.1.a.3.0.2.a.66.0.20.a.dt.0.1.8.1.0.3.8.b.0.3.8.d.0.3.8.d.0.3.8.d.0.2",
    ".8.1.0.b.b.3.9.1.0.1.1.o.8.7.b.1.6.5.7.f.8.1.6.q.8.1.b.6.9.4.b.6.9.1.4.3.0.6.4.2.5.3.8.1.0.a.4",
    ".2.5.3.8.h.0.1g.7.11.a.f.0.2.8.1.0.4.8.1.0.2.8.a.0.1.8.1.0.3.8.5.0.6.8.1.0.1.8.1.0.1.8.1.0.1.8",
    ".4.0.1.7.b.0.2.8.4.0.5.8.5.0.4.8.2.0.g.8.19.0.3.8.4.0.42.8.1.5.1.7.92.8.25.0.q.8.1.0.4h.8.p.0.",
    "b.8.l.0.18.8.k.4.2e.0.e2.8.1.0.aj.8.80.0.jk.8.2.0.10.8.1.0.39.8.75.0.6.8.4.0.3.a.7.0.7.8.3v.0.",
    "1.a.30.0.10.a.2u.8.12.0.q.8.1.0.2p.8.c.0.6m.8.q.0.c.8.4.0.1.b.4.8.3.0.p.8.9.0.4.a.2.0.1.8.5.0.",
    "2.8.5.0.3.8.2p.0.2.a.2.8.3.0.1.8.2q.0.1.8.64.0.14.8.1p.0.2.8.1h.0.g.8.s.0.3.8.1i.0.f.8.c.0.4.8",
    ".57.0.4.8.33.0.2.8.v.0.1.8.6e0.0.20.8.lkg.0.1n.8.a6.0.3.8.2v.0.4.a.1.8.a.a.2.8.u.0.2.a.2g.0.2.",
    "a.e.0.12.8.36.0.1.8.3p.0.1.a.3.0.1.a.4.0.1.a.p.0.2.a.1.0.4.8.1.a.b.0.2.7.1q.0.4.8.2c.0.2.a.q.0",
    ".i.a.d.0.1.a.16.0.8.a.p.0.b.a.1e.0.3.a.1g.0.1.a.2.0.4.a.2.0.2.a.17.0.1.a.23.0.6.a.2.0.2.a.2.0.",
    "2.a.c.0.1.a.8.0.1.a.1f.0.1.a.1j.0.1.a.1.0.3.a.2.0.2.a.5.0.2.a.1.0.1.a.1a.0.2.a.8.0.1.a.3j.0.2.",
    "8.3p.0.1.a.2.0.1.a.4.0.1.a.jpf.0.1.1.1.a.a.1.1.5.16.1.fe.2.i.8.3v.2.1.8.10.9.d.2.3.8.g.a.a.8.6",
    ".0.g.a.10.8.1.6.1.8.1.6.1.0.1.8.1.6.9.8.1.7.2.8.2.5.3.8.1.0.1.8.2.7.1.8.4.0.4f.2.1.9.1.0.2.8.3",
    ".7.5.8.1.5.1.6.1.5.2.6.a.4.1.6.6.8.q.0.6.8.q.0.b.8.3q.0.2.7.3.8.2.7.1.0.7.8.1.0.9.9.5.8.2.9.81",
    ".0.1.8.1u.0.2d.8.3.0.d.8.3.0.1.8.2s.0.1.a.72.0.1.a.r.4.3q.0.5.a.145.0.8v.1.1.8.71.1.3.a.1.1.2.",
    "a.5.1.4.a.18.1.3.a.4.1.1.a.55.1.2.a.2i.1.7.8.e0.1.14.2.4.a.8.2.a.3.6.2.90.1.v.3.1c.1.2.a.j.1.1",
    "t.2.3.a.1g.1.m.2.b.a.v.2.i.1.4.a.3q.1.1.0.1.a.1m.0.f.a.b.0.k.8.a.0.1.a.2.0.2.a.a.0.3.a.1h.0.4.",
    "a.2.0.2.a.7.0.1.a.1t.0.3.a.14.0.5.a.1.0.8.a.1u.0.1.a.c.0.2.a.1k.0.9.a.a.0.4.a.2.0.1.a.2v.0.3.a",
    ".2.0.1.a.1.0.2.a.6.0.1.a.2.0.1.a.4t.0.1.a.3.0.8.a.l.0.2.a.1p.0.2.a.3.0.1.a.15.0.7.a.3.0.5.a.63",
    ".0.8.a.2.0.3.a.1.0.1.a.n.0.1.a.2k.0.6.a.1.0.1.a.4.0.2.a.1.0.2.a.7e.0.4.a.6.0.2.a.1.0.2.a.r.0.2",
    ".a.2l.0.8.a.2.0.1.a.1.0.2.a.v.0.d.8.1u.0.1.a.1.0.1.a.2.0.6.a.1.0.1.a.35.0.3.a.2.0.4.a.1.0.5.a.",
    "83.0.9.a.1.0.2.a.80.0.2.a.1.0.1.a.4.0.1.a.4g.0.4.a.2.0.2.a.4.0.1.a.10.0.6.a.2.0.2.a.18.0.6.a.2",
    ".0.4.a.8.0.1.a.9.0.6.a.2.0.3.a.1e.0.d.a.1.0.2.a.cm.0.7.a.1.0.6.a.2k.0.m.a.2.0.7.a.1.0.2.a.1.0.",
    "2.a.3q.0.6.a.3.0.1.a.1.0.2.a.1.0.7.a.1.0.1.a.28.0.2.a.3.0.1.a.1.0.1.a.ar.0.2.a.b.0.2.a.1k.0.5.",
    "a.5.0.1.a.1.0.1.a.4i.0.8.8.4.7.h.8.52e.0.1.a.6.0.f.a.dkq.0.5.a.1r.0.7.a.10o.0.1.a.1v.0.4.a.2f.",
    "0.1.8.1.0.1.a.j5o.0.2.a.1.0.4.9.4is.0.1e.a.2.0.n.a.h0.0.3.a.9.0.8.9.8.a.2.0.7.a.u.0.4.a.1r.0.2",
    ".8.l.0.22.8.3.a.1.8.5q.0.2n.8.s4.0.1.8.1p.0.1.8.1p.0.1.8.1p.0.1.8.1p.0.1.8.a.0.1i.4.g0.0.1n.a.",
    "4.0.1i.a.8.0.1.a.e.0.1.a.m.0.5.a.1.0.f.a.1ag.0.7.a.1.0.h.a.2.0.7.a.1.0.2.a.1.0.5.a.34.0.1.a.50",
    ".0.7.a.bn.0.1.a.1t.0.4.a.f.0.1.7.fc.0.4.a.og.0.6g.1.7.a.3d.1.7.a.p5.1.2g.2.20.1.2g.2.5g.1.7g.2",
    ".2.8.e.2.80.1.1c.8.4.0.34.8.c.0.f.8.2.0.f.8.1.0.f.8.1.0.15.8.a.0.b.4.5.8.v.0.1.8.1q.0.6.8.1t.0",
    ".1.8.5i.0.6.8.4q.0.uo.8.4.0.h.8.3.0.d.8.3.0.3n.8.4.0.2v.8.6.0.c.8.4.0.1.8.f.0.c.8.4.0.1o.8.8.0",
    ".a.8.6.0.18.8.8.0.u.8.2.0.2.8.2e.0.ak.8.c.0.e.8.2.0.d.8.3.0.9.8.7.0.1e.8.1.0.7.8.8.0.e.8.4.0.9",
    ".8.7.0.9.8.7.0.4j.8.1.0.1n.8.15.0.a.4.104.0.2.9.1vvu.0.2.9.1vvu.0.2.9.1vvu.0.2.9.1vvu.0.2.9.1v",
    "vu.0.2.9.1vvu.0.2.9.1vvu.0.2.9.1vvu.0.2.9.1vvu.0.2.9.1vvu.0.2.9.1vvu.0.2.9.1vvu.0.82.9.7g.a.3g",
    "g.9.1rvu.0.2.9.1vvu.0.2.9.1vvu.0.2.9.0.0"]

def ofChar (c : Char) : Direction :=
  all.getD (table.valueAt c.toNat) .other

end Direction

end SecondFactor
