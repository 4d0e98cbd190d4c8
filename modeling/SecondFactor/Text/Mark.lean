import SecondFactor.Text.RunTable

/-!
The characters that mark another one, among them all accents.
-/

namespace SecondFactor

def marks : RunTable Nat :=
  .ofText <| String.join
    ["o0.0.3g.1.8j.0.7.1.87.0.1d.1.1.0.1.1.1.0.2.1.1.0.2.1.1.0.1.1.28.0.b.1.1g.0.l.1.g.0.1.1.35.0.7.",
    "1.2.0.6.1.2.0.2.1.1.0.4.1.13.0.1.1.u.0.r.1.2r.0.b.1.1q.0.9.1.9.0.1.1.o.0.4.1.1.0.9.1.1.0.3.1.1",
    ".0.5.1.1b.0.3.1.1r.0.9.1.1a.0.o.1.1.0.11.1.1m.0.3.1.1.0.i.1.1.0.7.1.a.0.2.1.t.0.3.1.1o.0.1.1.1",
    ".0.7.1.2.0.2.1.2.0.3.1.9.0.1.1.a.0.2.1.q.0.1.1.2.0.3.1.1o.0.1.1.1.0.5.1.4.0.2.1.2.0.3.1.3.0.1.",
    "1.u.0.2.1.3.0.1.1.b.0.3.1.1o.0.1.1.1.0.8.1.1.0.3.1.1.0.3.1.k.0.2.1.m.0.6.1.1.0.3.1.1o.0.1.1.1.",
    "0.7.1.2.0.2.1.2.0.3.1.7.0.3.1.a.0.2.1.u.0.1.1.1r.0.5.1.3.0.3.1.1.0.4.1.9.0.1.1.18.0.5.1.1n.0.1",
    ".1.1.0.7.1.1.0.3.1.1.0.4.1.7.0.2.1.b.0.2.1.t.0.3.1.1o.0.1.1.1.0.7.1.1.0.3.1.1.0.4.1.7.0.2.1.b.",
    "0.2.1.f.0.1.1.c.0.4.1.1n.0.2.1.1.0.7.1.1.0.3.1.1.0.4.1.9.0.1.1.a.0.2.1.t.0.3.1.26.0.1.1.4.0.6.",
    "1.1.0.1.1.1.0.8.1.i.0.2.1.1t.0.1.1.2.0.7.1.c.0.8.1.32.0.1.1.2.0.9.1.b.0.7.1.29.0.2.1.r.0.1.1.1",
    ".0.1.1.1.0.1.1.4.0.2.1.1h.0.k.1.1.0.2.1.5.0.b.1.1.0.14.1.9.0.1.1.34.0.k.1.n.0.4.1.4.0.3.1.1.0.",
    "3.1.2.0.7.1.3.0.4.1.d.0.c.1.1.0.1.1.a.0.4.1.lv.0.3.1.ti.0.4.1.s.0.3.1.t.0.2.1.u.0.2.1.20.0.10.",
    "1.9.0.1.1.1d.0.3.1.1.0.1.1.3l.0.2.1.12.0.1.1.3m.0.c.1.4.0.c.1.6r.0.5.1.1p.0.a.1.1.0.t.1.2.0.1.",
    "1.1g.0.1e.1.2.0.c.1.k.0.5.1.1f.0.h.1.16.0.9.1.c.0.3.1.u.0.d.1.1o.0.e.1.1g.0.k.1.4o.0.3.1.1.0.l",
    ".1.4.0.1.1.6.0.1.1.2.0.3.1.66.0.20.1.mg.0.11.1.2vu.0.3.1.4d.0.1.1.30.0.10.1.ha.0.6.1.39.0.2.1.",
    "tek.0.4.1.1.0.a.1.10.0.2.1.2g.0.2.1.8g.0.1.1.3.0.1.1.4.0.1.1.n.0.5.1.4.0.1.1.2j.0.2.1.1i.0.i.1",
    ".q.0.i.1.d.0.1.1.16.0.8.1.p.0.d.1.1c.0.4.1.1f.0.e.1.14.0.1.1.23.0.e.1.c.0.1.1.8.0.2.1.1d.0.3.1",
    ".1i.0.1.1.1.0.3.1.2.0.2.1.5.0.2.1.1.0.1.1.19.0.5.1.5.0.2.1.7c.0.8.1.1.0.2.1.jpg.0.1.1.n1.0.g.1",
    ".g.0.g.1.ud.0.1.1.72.0.1.1.4l.0.5.1.1k6.0.3.1.1.0.2.1.5.0.4.1.18.0.3.1.4.0.1.1.55.0.2.1.ht.0.4",
    ".1.21.0.5.1.9t.0.2.1.2d.0.6.1.26.0.b.1.1h.0.4.1.3q.0.3.1.1l.0.f.1.19.0.1.1.2.0.2.1.a.0.4.1.1d.",
    "0.b.1.7.0.1.1.1t.0.3.1.14.0.e.1.g.0.2.1.1c.0.1.1.c.0.3.1.1g.0.e.1.8.0.4.1.1.0.2.1.2s.0.c.1.6.0",
    ".1.1.2.0.1.1.4t.0.c.1.l.0.4.1.1n.0.2.1.1.0.7.1.2.0.2.1.2.0.3.1.9.0.1.1.a.0.2.1.2.0.7.1.3.0.5.1",
    ".23.0.9.1.1.0.1.1.2.0.1.1.1.0.4.1.1.0.5.1.1.0.1.1.e.0.2.1.2i.0.i.1.n.0.1.1.2h.0.k.1.7b.0.7.1.2",
    ".0.9.1.r.0.2.1.2i.0.h.1.3a.0.d.1.35.0.f.1.80.0.f.1.7l.0.6.1.1.0.2.1.2.0.4.1.1.0.1.1.1.0.2.1.4d",
    ".0.7.1.2.0.7.1.3.0.1.1.s.0.a.1.18.0.7.1.1.0.4.1.8.0.1.1.9.0.b.1.1e.0.g.1.66.0.8.1.67.0.8.1.1.0",
    ".8.1.2i.0.m.1.1.0.e.1.3q.0.6.1.3.0.1.1.1.0.2.1.1.0.7.1.1.0.1.1.22.0.5.1.1.0.2.1.1.0.5.1.ar.0.4",
    ".1.9.0.2.1.1.0.1.1.1g.0.7.1.3.0.5.1.n.0.1.1.575.0.1.1.6.0.f.1.b68.0.i.1.2e0.0.5.1.1r.0.7.1.10o",
    ".0.1.1.1.0.1n.1.7.0.4.1.2h.0.1.1.b.0.2.1.j5b.0.2.1.4j1.0.1e.1.2.0.n.1.gu.0.5.1.3.0.6.1.8.0.8.1",
    ".2.0.7.1.u.0.4.1.4k.0.3.1.1tr.0.1n.1.4.0.1i.1.8.0.1.1.e.0.1.1.m.0.5.1.1.0.f.1.1ag.0.7.1.1.0.h.",
    "1.2.0.7.1.1.0.2.1.1.0.5.1.34.0.1.1.50.0.7.1.bn.0.1.1.1t.0.4.1.fs.0.4.1.7u.0.2.1.7j.0.1.1.2.0.1",
    ".1.7.0.2.1.5.0.1.1.eq.0.7.1.3d.0.7.1.o5tl.0.7g.1.5vgg.0"]

def isMark (c : Char) : Bool :=
  marks.valueAt c.toNat = 1

end SecondFactor
