import SecondFactor.Text.RunTable

/-!
How a character joins its neighbours in a cursive script.
-/

namespace SecondFactor

inductive Joining where
  | none
  | transparent
  | dual
  | right
  | left
  | causing
deriving DecidableEq, Repr

namespace Joining

/-- In the order in which the table numbers them. -/
def all : List Joining :=
  [.none, .transparent, .dual, .right, .left, .causing]

def table : RunTable Nat :=
  .ofText <| String.join
    ["5d.0.1.1.ii.0.3g.1.8j.0.7.1.87.0.1d.1.1.0.1.1.1.0.2.1.1.0.2.1.1.0.1.1.28.0.b.1.1.0.1.1.3.0.1.2",
    ".1.0.4.3.1.2.1.3.1.2.1.3.5.2.4.3.d.2.1.5.7.2.1.3.2.2.l.1.e.0.2.2.1.1.3.3.1.0.3.3.g.2.i.3.16.2.",
    "1.3.2.2.9.3.1.2.1.3.1.2.1.3.2.2.2.3.1.0.1.3.7.1.2.0.6.1.2.0.2.1.1.0.4.1.2.3.a.0.3.2.2.0.1.2.f.",
    "0.1.1.1.3.1.1.3.2.5.3.4.2.1.3.9.2.1.3.1.2.1.3.1.2.1.3.2.2.1.3.r.1.2.0.1.3.b.2.3.3.f.2.2.3.4.2.",
    "1.3.1.2.2.3.3.2.2.3.6.2.16.0.b.1.p.0.11.2.9.1.6.0.1.5.2.0.1.1.o.0.4.1.1.0.9.1.1.0.3.1.1.0.5.1.",
    "i.0.1.3.5.2.2.3.1.2.1.3.a.2.1.3.1.2.3.3.3.1.4.0.1.2.1.0.4.2.1.0.1.3.1.2.2.3.5.0.j.3.3.5.1.2.2.",
    "0.5.2.1.3.9.0.8.1.a.2.3.3.1.0.1.3.2.2.2.3.6.2.1.3.f.2.1.0.o.1.1.0.10.1.1n.0.1.1.1.0.1.1.4.0.8.",
    "1.4.0.1.1.3.0.7.1.a.0.2.1.t.0.1.1.1q.0.1.1.4.0.4.1.8.0.1.1.k.0.2.1.q.0.1.1.2.0.2.1.1p.0.1.1.4.",
    "0.2.1.4.0.2.1.2.0.3.1.3.0.1.1.u.0.2.1.3.0.1.1.b.0.2.1.1p.0.1.1.4.0.5.1.1.0.2.1.4.0.1.1.k.0.2.1",
    ".m.0.6.1.1.0.1.1.1q.0.1.1.2.0.1.1.1.0.4.1.8.0.1.1.7.0.2.1.b.0.2.1.u.0.1.1.1t.0.1.1.c.0.1.1.1i.",
    "0.1.1.3.0.1.1.1n.0.1.1.1.0.3.1.5.0.3.1.1.0.4.1.7.0.2.1.b.0.2.1.t.0.1.1.1q.0.1.1.2.0.1.1.6.0.1.",
    "1.5.0.2.1.k.0.2.1.s.0.2.1.1p.0.2.1.4.0.4.1.8.0.1.1.k.0.2.1.t.0.1.1.28.0.1.1.7.0.3.1.1.0.1.1.2q",
    ".0.1.1.2.0.7.1.c.0.8.1.32.0.1.1.2.0.9.1.b.0.7.1.29.0.2.1.r.0.1.1.1.0.1.1.1.0.1.1.1n.0.e.1.1.0.",
    "5.1.1.0.2.1.5.0.b.1.1.0.14.1.9.0.1.1.36.0.4.1.1.0.6.1.1.0.2.1.2.0.2.1.p.0.2.1.4.0.3.1.g.0.4.1.",
    "d.0.1.1.2.0.2.1.6.0.1.1.f.0.1.1.lv.0.3.1.ti.0.3.1.t.0.2.1.u.0.2.1.u.0.2.1.20.0.2.1.1.0.7.1.8.0",
    ".1.1.2.0.b.1.9.0.1.1.19.0.1.2.2.0.1.5.3.1.1.0.1.1.g.0.2p.2.c.0.2.1.12.2.1.1.1.2.3l.0.3.1.4.0.2",
    ".1.9.0.1.1.6.0.3.1.6r.0.2.1.2.0.1.1.1q.0.1.1.1.0.7.1.1.0.1.1.1.0.1.1.2.0.8.1.6.0.a.1.2.0.1.1.1",
    "g.0.v.1.1h.0.4.1.1g.0.1.1.1.0.5.1.1.0.1.1.5.0.1.1.18.0.9.1.c.0.2.1.10.0.4.1.2.0.2.1.1.0.3.1.1o",
    ".0.1.1.1.0.2.1.3.0.1.1.1.0.3.1.1q.0.8.1.2.0.2.1.4o.0.3.1.1.0.d.1.1.0.7.1.4.0.1.1.6.0.1.1.3.0.2",
    ".1.66.0.20.1.gb.0.1.1.1.0.1.5.2.1.q.0.5.1.1h.0.5.1.5.0.6.1.30.0.11.1.2vu.0.3.1.4d.0.1.1.30.0.1",
    "0.1.ha.0.4.1.3b.0.2.1.tek.0.4.1.1.0.a.1.10.0.2.1.2g.0.2.1.8g.0.1.1.3.0.1.1.4.0.1.1.p.0.2.1.5.0",
    ".1.1.j.0.1i.2.1.4.2h.0.2.1.q.0.i.1.d.0.1.1.16.0.8.1.p.0.b.1.1e.0.3.1.1g.0.1.1.2.0.4.1.2.0.2.1.",
    "17.0.1.1.23.0.6.1.2.0.2.1.2.0.2.1.c.0.1.1.8.0.1.1.1f.0.1.1.1j.0.1.1.1.0.3.1.2.0.2.1.5.0.2.1.1.",
    "0.1.1.1a.0.2.1.8.0.1.1.7e.0.1.1.2.0.1.1.4.0.1.1.jpg.0.1.1.n1.0.g.1.g.0.g.1.6f.0.1.1.7p.0.3.1.g",
    "1.0.1.1.72.0.1.1.4l.0.5.1.1k6.0.3.1.1.0.2.1.5.0.4.1.18.0.3.1.4.0.1.1.40.0.5.2.1.3.1.0.1.3.1.0.",
    "2.3.2.0.1.4.5.3.4.2.1.4.5.2.1.3.3.2.1.3.2.0.1.3.2.1.4.0.4.2.1.3.4g.0.1.2.1.3.1.2.3.3.3.2.1.3.2",
    ".2.1.3.1.2.2.3.1.2.1.3.n.0.4.3.2.2.ah.0.1.4.11.2.1.3.1.2.4.1.c3.0.2.1.2g.0.3.1.1g.0.3.2.1.3.h.",
    "2.1.0.b.1.3.2.1.3.r.0.4.2.2.3.c.2.4.1.1a.0.1.2.1.0.2.2.3.3.1.0.1.2.2.3.2.2.1.3.2.2.1.0.1.2.2.3",
    ".1.2.4.0.1.3.1.2.1.4.1l.0.1.1.1m.0.f.1.19.0.1.1.2.0.2.1.a.0.3.1.1h.0.4.1.2.0.2.1.7.0.1.1.1t.0.",
    "3.1.14.0.5.1.1.0.8.1.1u.0.1.1.c.0.2.1.1k.0.9.1.a.0.4.1.2.0.1.1.2v.0.3.1.2.0.1.1.1.0.2.1.6.0.1.",
    "1.2.0.1.1.4t.0.1.1.3.0.8.1.l.0.2.1.1p.0.2.1.3.0.1.1.15.0.7.1.3.0.5.1.63.0.8.1.2.0.3.1.1.0.1.1.",
    "n.0.1.1.2k.0.6.1.1.0.1.1.4.0.2.1.1.0.2.1.7e.0.4.1.6.0.2.1.1.0.2.1.r.0.2.1.2l.0.8.1.2.0.1.1.1.0",
    ".2.1.3a.0.1.1.1.0.1.1.2.0.6.1.1.0.1.1.35.0.3.1.2.0.4.1.1.0.5.1.83.0.9.1.1.0.2.1.80.0.2.1.1.0.1",
    ".1.4.0.1.1.4g.0.4.1.2.0.2.1.4.0.1.1.10.0.a.1.18.0.6.1.2.0.4.1.8.0.1.1.9.0.6.1.2.0.3.1.1e.0.d.1",
    ".1.0.2.1.cm.0.7.1.1.0.6.1.1.0.1.1.2i.0.m.1.2.0.7.1.1.0.2.1.1.0.2.1.3q.0.6.1.3.0.1.1.1.0.2.1.1.",
    "0.7.1.1.0.1.1.28.0.2.1.3.0.1.1.1.0.1.1.ar.0.2.1.b.0.2.1.1k.0.5.1.5.0.1.1.1.0.1.1.57d.0.h.1.6.0",
    ".f.1.dkq.0.5.1.1r.0.7.1.10o.0.1.1.1v.0.4.1.2h.0.1.1.j5o.0.2.1.1.0.4.1.4is.0.1e.1.2.0.n.1.h0.0.",
    "3.1.9.0.g.1.2.0.7.1.u.0.4.1.4k.0.3.1.1tr.0.1n.1.4.0.1i.1.8.0.1.1.e.0.1.1.m.0.5.1.1.0.f.1.1ag.0",
    ".7.1.1.0.h.1.2.0.7.1.1.0.2.1.1.0.5.1.34.0.1.1.50.0.7.1.bn.0.1.1.1t.0.4.1.fs.0.4.1.v0.0.7.1.19.",
    "0.24.2.8.1.o5ll.0.1.1.u.0.30.1.40.0.7g.1.5vgg.0"]

def ofChar (c : Char) : Joining :=
  all.getD (table.valueAt c.toNat) .none

end Joining

end SecondFactor
