import SecondFactor.Text.RunTable

/-!
The canonical combining class of a character: zero for one that starts afresh, and otherwise a
rank that orders the marks behind it.
-/

namespace SecondFactor

def combiningClasses : RunTable Nat :=
  .ofText <| String.join
    ["o0.0.l.76.1.78.4.6s.1.78.1.6o.5.6s.2.6a.4.6s.2.6a.b.6s.5.1.4.6s.8.76.1.7g.1.76.3.6s.3.76.2.6s.",
    "1.0.3.76.4.6s.1.76.1.78.2.6s.1.76.1.79.2.7a.1.79.2.7a.1.79.d.76.8j.0.5.76.89.0.1.6s.4.76.1.6s.",
    "3.76.1.6u.1.6s.6.76.6.6s.2.76.1.6s.2.76.1.6u.1.74.1.76.1.a.1.b.1.c.1.d.1.e.1.f.1.g.1.h.1.i.2.j",
    ".1.k.1.l.1.m.1.0.1.n.1.0.1.o.1.p.1.0.1.76.1.6s.1.0.1.i.28.0.8.76.1.u.1.v.1.10.1g.0.1.r.1.s.1.t",
    ".1.u.1.v.1.10.1.11.1.12.2.76.2.6s.5.76.1.6s.2.76.1.6s.g.0.1.13.35.0.7.76.2.0.4.76.1.6s.1.76.2.",
    "0.2.76.1.0.1.6s.2.76.1.6s.13.0.1.14.u.0.1.76.1.6s.2.76.1.6s.2.76.3.6s.1.76.2.6s.1.76.1.6s.3.76",
    ".1.6s.1.76.1.6s.1.76.1.6s.1.76.1.6s.2.76.50.0.7.76.1.6s.1.76.9.0.1.6s.o.0.4.76.1.0.9.76.1.0.3.",
    "76.1.0.5.76.1b.0.3.6s.1s.0.1.76.3.6s.4.76.1a.0.5.76.5.6s.e.76.1.0.1.6s.2.76.1.6s.2.76.1.6s.3.7",
    "6.3.6s.1.r.1.s.1.t.3.76.1.6s.2.76.2.6s.5.76.1s.0.1.7.g.0.1.9.3.0.1.76.1.6s.2.76.37.0.1.7.g.0.1",
    ".9.1g.0.1.76.1t.0.1.7.g.0.1.9.3e.0.1.7.g.0.1.9.3e.0.1.7.g.0.1.9.3v.0.1.9.3e.0.1.7.g.0.1.9.7.0.",
    "1.2k.1.2r.35.0.1.7.g.0.1.9.3d.0.2.9.g.0.1.9.3s.0.1.9.3d.0.2.37.1.9.d.0.4.3b.3c.0.2.3m.1.9.d.0.",
    "4.3q.2c.0.2.6s.r.0.1.6s.1.0.1.6s.1.0.1.6o.1n.0.1.41.1.42.1.0.1.44.5.0.4.42.2.0.1.42.1.0.2.76.1",
    ".9.1.0.2.76.1u.0.1.6s.3g.0.1.7.1.0.2.9.2i.0.1.6s.mf.0.3.76.tk.0.2.9.u.0.1.9.4t.0.1.9.a.0.1.76.",
    "6b.0.1.74.4f.0.1.6u.1.76.1.6s.6r.0.1.76.1.6s.27.0.1.9.k.0.8.76.2.0.1.6s.1g.0.5.76.6.6s.2.76.1.",
    "6s.1.0.2.6s.2.76.2.6s.5.76.1.6s.4.76.35.0.1.7.f.0.1.9.16.0.1.76.1.6s.7.76.1m.0.2.9.1q.0.1.7.b.",
    "0.2.9.23.0.1.7.4o.0.3.76.1.0.1.1.5.6s.2.76.4.6s.1.76.1.0.7.1.4.0.1.6s.6.0.1.76.3.0.2.76.66.0.2",
    ".76.1.6s.7.76.1.6s.2.76.1.7a.1.6m.1.6s.1.6a.15.76.1.78.2.74.1.6s.1.6q.1.76.1.79.1.6s.1.76.1.6s",
    ".mg.0.2.76.2.1.4.76.3.1.2.76.4.0.1.76.3.0.2.1.1.76.1.6s.1.76.2.1.4.6s.1.76.2vu.0.3.76.4d.0.1.9",
    ".30.0.10.76.ha.0.1.6q.1.74.1.78.1.6u.2.70.39.0.2.8.tek.0.1.76.4.0.a.76.10.0.2.76.2g.0.2.76.8k.",
    "0.1.9.15.0.1.9.4n.0.1.9.r.0.i.76.1p.0.3.6s.15.0.1.9.2v.0.1.7.c.0.1.9.7f.0.1.76.1.0.2.76.1.6s.2",
    ".0.2.76.5.0.2.76.1.0.1.76.1k.0.1.9.7m.0.1.9.jpg.0.1.q.o1.0.7.76.7.6s.2.76.ud.0.1.6s.72.0.1.6s.",
    "4l.0.5.76.1ki.0.1.6s.1.0.1.76.18.0.1.76.1.1.1.6s.4.0.1.9.55.0.1.76.1.6s.ht.0.4.76.c3.0.2.76.2g",
    ".0.3.6s.26.0.2.6s.3.76.1.6s.1.76.4.6s.1h.0.1.76.1.6s.1.76.1.6s.60.0.1.9.19.0.1.9.e.0.1.9.1p.0.",
    "1.9.1.7.25.0.3.76.1g.0.2.9.1u.0.1.7.2c.0.1.9.9.0.1.7.3a.0.1.9.1.7.5i.0.1.7.1.9.2g.0.2.7.g.0.1.",
    "9.o.0.7.76.3.0.5.76.6d.0.1.9.3.0.1.7.n.0.1.76.33.0.1.9.1.7.7r.0.1.9.1.7.3u.0.1.9.3m.0.1.9.1.7.",
    "3j.0.1.9.8d.0.1.9.1.7.82.0.2.9.4.0.1.7.4s.0.1.9.2j.0.1.9.i.0.1.9.2h.0.1.9.d5.0.1.9.82.0.1.7.1.",
    "0.2.9.2h.0.1.9.d9.0.2.9.itd.0.5.1.1r.0.7.76.15p.0.2.6.j5c.0.1.1.566.0.2.6o.3.1.3.0.1.72.5.6o.8",
    ".0.8.6s.2.0.5.76.2.6s.u.0.4.76.4k.0.3.76.3dr.0.7.76.1.0.h.76.2.0.7.76.1.0.2.76.1.0.5.76.34.0.1",
    ".76.50.0.7.76.bn.0.1.76.1t.0.4.76.fs.0.2.78.1.6s.1.76.v0.0.7.6s.3d.0.6.76.1.7.u5ll.0"]

def combiningClass (c : Char) : Nat :=
  combiningClasses.valueAt c.toNat

end SecondFactor
