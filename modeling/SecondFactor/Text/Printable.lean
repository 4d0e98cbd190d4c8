import SecondFactor.Text.RunTable

/-!
The characters that show on their own. All others, that is control and format characters, spaces
but for the plain one, characters not assigned and those that extend the one before, are written
by their number where a text is quoted.
-/

namespace SecondFactor

/-- Control and format characters, separators and unassigned code points. -/
def blanks : RunTable Nat :=
  .ofText <| String.join
    ["11.1.2u.0.12.1.c.0.1.1.ma.0.2.1.6.0.4.1.7.0.1.1.1.0.1.1.k.0.1.1.cd.0.1.1.16.0.2.1.1i.0.2.1.3.0",
    ".1.1.1n.0.8.1.r.0.4.1.6.0.h.1.m.0.1.1.60.0.1.1.1g.0.2.1.1r.0.2.1.35.0.e.1.1r.0.2.1.1h.0.2.1.f.",
    "0.1.1.s.0.2.1.1.0.1.1.b.0.5.1.10.0.7.1.2b.0.1.1.51.0.1.1.8.0.2.1.2.0.2.1.m.0.1.1.7.0.1.1.1.0.3",
    ".1.4.0.2.1.9.0.2.1.2.0.2.1.4.0.8.1.1.0.4.1.2.0.1.1.5.0.2.1.p.0.2.1.3.0.1.1.6.0.4.1.2.0.2.1.m.0",
    ".1.1.7.0.1.1.2.0.1.1.2.0.1.1.2.0.2.1.1.0.1.1.5.0.4.1.2.0.2.1.3.0.3.1.1.0.7.1.4.0.1.1.1.0.7.1.h",
    ".0.a.1.3.0.1.1.9.0.1.1.3.0.1.1.m.0.1.1.7.0.1.1.2.0.1.1.5.0.2.1.a.0.1.1.3.0.1.1.3.0.2.1.1.0.f.1",
    ".4.0.2.1.c.0.7.1.7.0.1.1.3.0.1.1.8.0.2.1.2.0.2.1.m.0.1.1.7.0.1.1.2.0.1.1.5.0.2.1.9.0.2.1.2.0.2",
    ".1.3.0.7.1.3.0.4.1.2.0.1.1.5.0.2.1.i.0.a.1.2.0.1.1.6.0.3.1.3.0.1.1.4.0.3.1.2.0.1.1.1.0.1.1.2.0",
    ".3.1.2.0.3.1.3.0.3.1.c.0.4.1.5.0.3.1.3.0.1.1.4.0.2.1.1.0.6.1.1.0.e.1.l.0.5.1.d.0.1.1.3.0.1.1.n",
    ".0.1.1.g.0.2.1.9.0.1.1.3.0.1.1.4.0.7.1.2.0.1.1.3.0.1.1.2.0.2.1.4.0.2.1.a.0.7.1.m.0.1.1.3.0.1.1",
    ".n.0.1.1.a.0.1.1.5.0.2.1.9.0.1.1.3.0.1.1.4.0.7.1.2.0.5.1.3.0.1.1.4.0.2.1.a.0.1.1.3.0.c.1.d.0.1",
    ".1.3.0.1.1.1j.0.1.1.3.0.1.1.6.0.4.1.g.0.2.1.q.0.1.1.3.0.1.1.i.0.3.1.o.0.1.1.9.0.1.1.1.0.2.1.7.",
    "0.3.1.1.0.4.1.6.0.1.1.1.0.1.1.8.0.6.1.a.0.2.1.3.0.c.1.1q.0.4.1.t.0.15.1.2.0.1.1.1.0.1.1.5.0.1.",
    "1.o.0.1.1.1.0.1.1.n.0.2.1.5.0.1.1.1.0.1.1.7.0.1.1.a.0.2.1.4.0.10.1.28.0.1.1.14.0.4.1.17.0.1.1.",
    "14.0.1.1.f.0.1.1.d.0.15.1.66.0.1.1.1.0.5.1.1.0.2.1.bp.0.1.1.4.0.2.1.7.0.1.1.1.0.1.1.4.0.2.1.19",
    ".0.1.1.4.0.2.1.11.0.1.1.4.0.2.1.7.0.1.1.1.0.1.1.4.0.2.1.f.0.1.1.1p.0.1.1.4.0.2.1.23.0.2.1.10.0",
    ".3.1.q.0.6.1.2m.0.2.1.6.0.2.1.k0.0.1.1.s.0.3.1.2p.0.7.1.m.0.9.1.o.0.9.1.k.0.c.1.d.0.1.1.3.0.1.",
    "1.2.0.c.1.2u.0.2.1.a.0.6.1.a.0.6.1.e.0.1.1.b.0.6.1.2p.0.7.1.1b.0.5.1.26.0.a.1.v.0.1.1.c.0.4.1.",
    "c.0.4.1.1.0.3.1.1a.0.2.1.5.0.b.1.1c.0.4.1.q.0.6.1.b.0.3.1.1u.0.2.1.21.0.1.1.t.0.2.1.b.0.6.1.a.",
    "0.6.1.e.0.2.1.1e.0.2.1.c.0.k.1.2d.0.1.1.56.0.8.1.1s.0.3.1.f.0.3.1.1u.0.5.1.1b.0.2.1.b.0.8.1.1b",
    ".0.5.1.gm.0.2.1.6.0.2.1.16.0.2.1.6.0.2.1.8.0.1.1.1.0.1.1.1.0.1.1.1.0.1.1.v.0.2.1.1l.0.1.1.f.0.",
    "1.1.e.0.2.1.6.0.1.1.j.0.2.1.3.0.1.1.9.0.h.1.o.0.8.1.1f.0.h.1.2.0.2.1.r.0.1.1.d.0.3.1.12.0.e.1.",
    "11.0.f.1.4c.0.4.1.kq.0.m.1.b.0.l.1.1ok.0.2.1.bu.0.5.1.1d.0.1.1.1.0.5.1.1.0.2.1.1o.0.7.1.2.0.e.",
    "1.o.0.9.1.7.0.1.1.7.0.1.1.7.0.1.1.7.0.1.1.7.0.1.1.7.0.1.1.7.0.1.1.7.0.1.1.3u.0.12.1.q.0.1.1.2p",
    ".0.c.1.6m.0.q.1.g.0.1.1.1v.0.1.1.2m.0.2.1.37.0.5.1.1b.0.1.1.2u.0.1.1.2m.0.9.1.1g.0.1.1.sjd.0.3",
    ".1.1n.0.9.1.as.0.k.1.5o.0.8.1.6t.0.k.1.1s.0.3.1.a.0.6.1.1o.0.8.1.26.0.8.1.c.0.6.1.3k.0.b.1.u.0",
    ".3.1.2e.0.1.1.b.0.4.1.11.0.1.1.1n.0.9.1.e.0.2.1.a.0.2.1.37.0.o.1.s.0.a.1.6.0.2.1.6.0.2.1.6.0.9",
    ".1.7.0.1.1.7.0.1.1.1s.0.4.1.3u.0.2.1.a.0.6.1.at4.0.c.1.n.0.4.1.1h.0.4.1.200.0.680.1.be.0.2.1.3",
    "a.0.16.1.7.0.c.1.5.0.5.1.q.0.1.1.5.0.1.1.1.0.1.1.2.0.1.1.2.0.1.1.ka.0.10.1.1a.0.6.1.1j.0.1.1.j",
    ".0.1.1.4.0.4.1.5.0.1.1.47.0.4.1.5u.0.3.1.6.0.2.1.6.0.2.1.6.0.2.1.3.0.3.1.7.0.1.1.7.0.d.1.2.0.2",
    ".1.c.0.1.1.q.0.1.1.j.0.1.1.2.0.1.1.f.0.2.1.e.0.12.1.3r.0.5.1.3.0.4.1.1d.0.3.1.2o.0.1.1.d.0.3.1",
    ".1.0.1f.1.1e.0.42.1.t.0.3.1.1h.0.f.1.s.0.4.1.14.0.9.1.u.0.5.1.1b.0.5.1.u.0.1.1.15.0.4.1.e.0.1a",
    ".1.4u.0.2.1.a.0.6.1.14.0.4.1.14.0.4.1.18.0.8.1.1k.0.b.1.c.0.1.1.f.0.1.1.7.0.1.1.2.0.1.1.b.0.1.",
    "1.f.0.1.1.7.0.1.1.2.0.3.1.1k.0.c.1.9n.0.9.1.m.0.a.1.8.0.o.1.6.0.1.1.1a.0.1.1.9.0.25.1.6.0.2.1.",
    "1.0.1.1.1c.0.1.1.2.0.3.1.1.0.2.1.n.0.1.1.28.0.8.1.9.0.1g.1.j.0.1.1.2.0.5.1.11.0.3.1.r.0.5.1.r.",
    "0.16.1.1o.0.4.1.k.0.2.1.1i.0.1.1.2.0.5.1.8.0.1.1.3.0.1.1.t.0.2.1.3.0.4.1.a.0.7.1.9.0.7.1.20.0.",
    "10.1.17.0.4.1.c.0.9.1.1m.0.3.1.t.0.2.1.r.0.5.1.q.0.7.1.4.0.c.1.7.0.2g.1.29.0.1n.1.1j.0.d.1.1j.",
    "0.7.1.1e.0.8.1.a.0.6.1.16.0.3.1.t.0.8.1.2.0.6g.1.v.0.1.1.1a.0.1.1.3.0.2.1.2.0.g.1.6.0.8.1.9.0.",
    "11.1.1e.0.8.1.1a.0.m.1.q.0.16.1.s.0.k.1.n.0.9.1.2e.0.4.1.14.0.9.1.1u.0.1.1.5.0.d.1.p.0.7.1.a.0",
    ".6.1.1l.0.1.1.i.0.8.1.17.0.9.1.30.0.1.1.k.0.b.1.i.0.1.1.1f.0.1u.1.7.0.1.1.1.0.1.1.4.0.1.1.f.0.",
    "1.1.b.0.6.1.1r.0.5.1.a.0.6.1.4.0.1.1.8.0.2.1.2.0.2.1.m.0.1.1.7.0.1.1.2.0.1.1.5.0.1.1.a.0.2.1.2",
    ".0.2.1.3.0.2.1.1.0.6.1.1.0.5.1.7.0.2.1.7.0.3.1.5.0.b.1.a.0.1.1.1.0.2.1.1.0.1.1.16.0.1.1.a.0.1.",
    "1.1.0.2.1.1.0.1.1.4.0.1.1.a.0.1.1.2.0.8.1.2.0.t.1.2s.0.1.1.5.0.u.1.28.0.8.1.a.0.56.1.1m.0.2.1.",
    "16.0.12.1.25.0.b.1.a.0.6.1.d.0.j.1.1q.0.6.1.a.0.6.1.k.0.s.1.r.0.2.1.f.0.4.1.n.0.5p.1.1s.0.34.1",
    ".2j.0.c.1.8.0.2.1.1.0.2.1.8.0.1.1.2.0.1.1.u.0.1.1.2.0.2.1.c.0.9.1.a.0.26.1.8.0.2.1.1e.0.2.1.b.",
    "0.r.1.28.0.8.1.2j.0.d.1.29.0.7.1.a.0.2m.1.8.0.2o.1.12.0.e.1.a.0.6.1.9.0.1.1.1d.0.1.1.e.0.a.1.t",
    ".0.3.1.10.0.2.1.m.0.1.1.e.0.29.1.7.0.1.1.2.0.1.1.1c.0.3.1.1.0.1.1.2.0.1.1.9.0.8.1.a.0.6.1.6.0.",
    "1.1.2.0.1.1.15.0.1.1.2.0.1.1.6.0.7.1.a.0.6.1.1c.0.4.1.a.0.7m.1.p.0.7.1.h.0.1.1.19.0.3.1.t.0.2l",
    ".1.1.0.f.1.1i.0.d.1.sr.0.36.1.3f.0.1.1.5.0.b.1.64.0.2ic.1.33.0.d.1.11g.0.g.1.m.0.a.1.3sr.0.5.1",
    ".i7.0.6lp.1.1q.0.1m6.1.hp.0.7.1.v.0.1.1.a.0.4.1.2h.0.1.1.a.0.6.1.u.0.2.1.6.0.a.1.26.0.a.1.a.0.",
    "1.1.7.0.1.1.l.0.5.1.j.0.dg.1.1q.0.66.1.2r.0.5.1.p.0.2.1.p.0.1c.1.2b.0.4.1.1p.0.7.1.h.0.20.1.5.",
    "0.b.1.7.0.9.1.76m.0.19.1.10.0.31.1.3j.0.8ft.1.4.0.1.1.7.0.1.1.2.0.1.1.93.0.f.1.1.0.t.1.3.0.2.1",
    ".1.0.e.1.4.0.8.1.cc.0.284.1.3b.0.5.1.d.0.3.1.9.0.7.1.a.0.2.1.4.0.3r0.1.7t.0.3.1.dk.0.6.1.n.0.f",
    ".1.h.0.f.1.1e.0.2.1.n.0.9.1.3k.0.1s.1.7m.0.a.1.17.0.2.1.2a.0.8.1.3g.0.l.1.26.0.3q.1.k.0.c.1.k.",
    "0.c.1.2n.0.9.1.p.0.47.1.2l.0.1.1.27.0.1.1.2.0.2.1.1.0.2.1.2.0.2.1.4.0.1.1.c.0.1.1.1.0.1.1.7.0.",
    "1.1.21.0.1.1.4.0.2.1.8.0.1.1.7.0.1.1.s.0.1.1.4.0.1.1.5.0.1.1.1.0.3.1.7.0.1.1.ak.0.2.1.94.0.2.1",
    ".lu.0.f.1.5.0.1.1.f.0.12g.1.v.0.6.1.6.0.6l.1.7.0.1.1.h.0.2.1.7.0.1.1.2.0.1.1.5.0.5.1.1u.0.11.1",
    ".1.0.3g.1.1d.0.3.1.e.0.2.1.a.0.4.1.2.0.a0.1.v.0.h.1.1q.0.5.1.1.0.eg.1.1a.0.6m.1.1b.0.4.1.1.0.6",
    "0.1.v.0.1.1.m.0.8.1.2.0.70.1.7.0.1.1.4.0.1.1.2.0.1.1.f.0.1.1.65.0.2.1.g.0.19.1.2c.0.4.1.a.0.4.",
    "1.2.0.oh.1.24.0.2c.1.1t.0.62.1.4.0.1.1.r.0.1.1.2.0.1.1.1.0.2.1.1.0.1.1.a.0.1.1.4.0.1.1.1.0.1.1",
    ".1.0.6.1.1.0.4.1.1.0.1.1.1.0.1.1.1.0.1.1.3.0.1.1.2.0.1.1.1.0.2.1.1.0.1.1.1.0.1.1.1.0.1.1.1.0.1",
    ".1.1.0.1.1.2.0.1.1.1.0.2.1.4.0.1.1.7.0.1.1.4.0.1.1.4.0.1.1.1.0.1.1.a.0.1.1.h.0.5.1.3.0.1.1.5.0",
    ".1.1.h.0.1k.1.2.0.8e.1.1c.0.4.1.34.0.c.1.f.0.2.1.f.0.1.1.f.0.1.1.15.0.a.1.5e.0.1o.1.t.0.d.1.1c",
    ".0.4.1.9.0.7.1.2.0.e.1.6.0.4q.1.up.0.3.1.h.0.3.1.d.0.3.1.6q.0.6.1.c.0.4.1.1.0.f.1.c.0.4.1.1o.0",
    ".8.1.a.0.6.1.18.0.8.1.u.0.2.1.c.0.4.1.2.0.e.1.9.0.17.1.ao.0.8.1.e.0.2.1.d.0.3.1.b.0.3.1.1p.0.1",
    ".1.1.0.4.1.g.0.2.1.c.0.4.1.a.0.7.1.4j.0.1.1.37.0.105.1.19n0.0.10.1.48u.0.2.1.5ke.0.2.1.79h.0.f",
    ".1.je.0.2d2.1.gu.0.1f2.1.4qb.0.5.1.89a.0.lj46.1.7g.0.5vgg.1"]

/-- Characters that are drawn together with the one before. -/
def extenders : RunTable Nat :=
  .ofText <| String.join
    ["o0.0.3g.1.8j.0.7.1.87.0.1d.1.1.0.1.1.1.0.2.1.1.0.2.1.1.0.1.1.28.0.b.1.1g.0.l.1.g.0.1.1.35.0.7.",
    "1.2.0.6.1.2.0.2.1.1.0.4.1.13.0.1.1.u.0.r.1.2r.0.b.1.1q.0.9.1.9.0.1.1.o.0.4.1.1.0.9.1.1.0.3.1.1",
    ".0.5.1.1b.0.3.1.1r.0.9.1.1a.0.o.1.1.0.10.1.1n.0.1.1.1.0.1.1.4.0.8.1.4.0.1.1.3.0.7.1.a.0.2.1.t.",
    "0.1.1.1q.0.1.1.1.0.1.1.2.0.4.1.8.0.1.1.9.0.1.1.a.0.2.1.q.0.1.1.2.0.2.1.1p.0.1.1.4.0.2.1.4.0.2.",
    "1.2.0.3.1.3.0.1.1.u.0.2.1.3.0.1.1.b.0.2.1.1p.0.1.1.4.0.5.1.1.0.2.1.4.0.1.1.k.0.2.1.m.0.6.1.1.0",
    ".1.1.1q.0.1.1.1.0.2.1.1.0.4.1.8.0.1.1.7.0.3.1.a.0.2.1.u.0.1.1.1r.0.1.1.1.0.1.1.c.0.1.1.9.0.1.1",
    ".18.0.1.1.3.0.1.1.1n.0.1.1.1.0.3.1.5.0.3.1.1.0.4.1.7.0.2.1.b.0.2.1.t.0.1.1.1q.0.1.1.2.0.2.1.1.",
    "0.1.1.3.0.3.1.1.0.4.1.7.0.2.1.b.0.2.1.s.0.2.1.1p.0.2.1.1.0.1.1.2.0.4.1.8.0.1.1.9.0.1.1.a.0.2.1",
    ".t.0.1.1.28.0.1.1.4.0.1.1.2.0.3.1.1.0.1.1.8.0.1.1.2h.0.1.1.2.0.7.1.c.0.8.1.32.0.1.1.2.0.9.1.b.",
    "0.7.1.29.0.2.1.r.0.1.1.1.0.1.1.1.0.1.1.1n.0.e.1.1.0.5.1.1.0.2.1.5.0.b.1.1.0.14.1.9.0.1.1.36.0.",
    "4.1.1.0.6.1.1.0.2.1.2.0.2.1.p.0.2.1.4.0.3.1.g.0.4.1.d.0.1.1.2.0.2.1.6.0.1.1.f.0.1.1.lv.0.3.1.t",
    "i.0.4.1.s.0.3.1.t.0.2.1.u.0.2.1.20.0.2.1.1.0.7.1.8.0.1.1.2.0.b.1.9.0.1.1.1d.0.3.1.1.0.1.1.3l.0",
    ".2.1.12.0.1.1.3m.0.3.1.4.0.2.1.9.0.1.1.6.0.3.1.6r.0.2.1.2.0.1.1.1q.0.1.1.1.0.7.1.1.0.1.1.1.0.1",
    ".1.2.0.8.1.6.0.a.1.2.0.1.1.1g.0.1e.1.2.0.c.1.k.0.4.1.1g.0.a.1.4.0.3.1.16.0.9.1.c.0.2.1.10.0.4.",
    "1.2.0.6.1.1o.0.1.1.1.0.2.1.3.0.1.1.1.0.5.1.1o.0.8.1.2.0.2.1.4o.0.3.1.1.0.d.1.1.0.7.1.4.0.1.1.6",
    ".0.1.1.3.0.2.1.66.0.20.1.gc.0.1.1.63.0.11.1.2vu.0.3.1.4d.0.1.1.30.0.10.1.ha.0.6.1.39.0.2.1.tek",
    ".0.4.1.1.0.a.1.10.0.2.1.2g.0.2.1.8g.0.1.1.3.0.1.1.4.0.1.1.p.0.2.1.5.0.1.1.4n.0.2.1.q.0.i.1.d.0",
    ".1.1.16.0.8.1.p.0.b.1.1.0.1.1.1c.0.3.1.1g.0.1.1.2.0.4.1.2.0.2.1.2.0.1.1.14.0.1.1.23.0.6.1.2.0.",
    "2.1.2.0.2.1.c.0.1.1.8.0.1.1.1f.0.1.1.1j.0.1.1.1.0.3.1.2.0.2.1.5.0.2.1.1.0.1.1.1a.0.2.1.8.0.1.1",
    ".7e.0.1.1.2.0.1.1.4.0.1.1.jpg.0.1.1.n1.0.g.1.g.0.g.1.be.0.2.1.it.0.1.1.72.0.1.1.4l.0.5.1.1k6.0",
    ".3.1.1.0.2.1.5.0.4.1.18.0.3.1.4.0.1.1.55.0.2.1.ht.0.4.1.21.0.5.1.9t.0.2.1.2d.0.6.1.26.0.b.1.1h",
    ".0.4.1.3r.0.1.1.1m.0.f.1.19.0.1.1.2.0.2.1.a.0.3.1.1h.0.4.1.2.0.2.1.7.0.1.1.1t.0.3.1.14.0.5.1.1",
    ".0.8.1.1u.0.1.1.c.0.2.1.1k.0.9.1.1.0.1.1.8.0.4.1.2.0.1.1.2v.0.3.1.2.0.4.1.6.0.1.1.2.0.1.1.4t.0",
    ".1.1.3.0.8.1.l.0.2.1.1p.0.2.1.1.0.1.1.1.0.1.1.c.0.1.1.9.0.1.1.e.0.7.1.3.0.5.1.23.0.1.1.2.0.6.1",
    ".1.0.1.1.2.0.1.1.1.0.3.1.4.0.3.1.1.0.1.1.e.0.2.1.2l.0.8.1.2.0.3.1.1.0.1.1.n.0.1.1.2h.0.1.1.2.0",
    ".6.1.1.0.1.1.2.0.1.1.1.0.2.1.1.0.2.1.7b.0.1.1.2.0.4.1.6.0.2.1.1.0.2.1.r.0.2.1.2l.0.8.1.2.0.1.1",
    ".1.0.2.1.3a.0.1.1.1.0.1.1.2.0.8.1.35.0.1.1.1.0.1.1.2.0.4.1.1.0.5.1.83.0.9.1.1.0.2.1.7l.0.1.1.a",
    ".0.4.1.4.0.1.1.4g.0.4.1.2.0.2.1.4.0.1.1.10.0.a.1.18.0.6.1.2.0.4.1.8.0.1.1.9.0.6.1.2.0.3.1.1e.0",
    ".d.1.1.0.2.1.66.0.1.1.1.0.3.1.1.0.1.1.69.0.7.1.1.0.6.1.1.0.1.1.2i.0.m.1.2.0.7.1.1.0.2.1.1.0.2.",
    "1.3q.0.6.1.3.0.1.1.1.0.2.1.1.0.7.1.1.0.1.1.28.0.2.1.3.0.1.1.1.0.1.1.ar.0.2.1.b.0.2.1.1k.0.5.1.",
    "5.0.3.1.n.0.1.1.575.0.1.1.6.0.f.1.b68.0.c.1.3.0.3.1.2e0.0.5.1.1r.0.7.1.10o.0.1.1.1v.0.4.1.2h.0",
    ".1.1.b.0.2.1.j5b.0.2.1.4j1.0.1e.1.2.0.n.1.gu.0.5.1.3.0.6.1.8.0.8.1.2.0.7.1.u.0.4.1.4k.0.3.1.1t",
    "r.0.1n.1.4.0.1i.1.8.0.1.1.e.0.1.1.m.0.5.1.1.0.f.1.1ag.0.7.1.1.0.h.1.2.0.7.1.1.0.2.1.1.0.5.1.34",
    ".0.1.1.50.0.7.1.bn.0.1.1.1t.0.4.1.fs.0.4.1.7u.0.2.1.7j.0.1.1.2.0.1.1.7.0.2.1.5.0.1.1.eq.0.7.1.",
    "3d.0.7.1.o5ml.0.30.1.40.0.7g.1.5vgg.0"]

def isPrintable (c : Char) : Bool :=
  c = ' ' || blanks.valueAt c.toNat = 0 && extenders.valueAt c.toNat = 0

end SecondFactor
