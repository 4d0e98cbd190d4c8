import SecondFactor.Text.RunTable

/-!
Characters that stand for two others: a base and the mark behind it, or two Hangul syllable parts.
Only those that can stand in a domain name are listed.
-/

namespace SecondFactor

/-- One character for a base and what follows it. -/
structure Composite where
  whole : Char
  first : Char
  second : Char
deriving DecidableEq, Repr

namespace Composite

/-- Composites in ascending order, each given as the distance to the one before and its two
parts. -/
def listFrom (start : Nat) : List Nat → List Composite
  | distance :: first :: second :: rest =>
    ⟨Char.ofNat (start + distance), Char.ofNat first, Char.ofNat second⟩
      :: listFrom (start + distance) rest
  | _ => []

def all : List Composite :=
  listFrom 0 <| RunTable.numbers <| String.join
    ["70.31.o0.1.31.o1.1.31.o2.1.31.o3.1.31.o8.1.31.oa.2.33.p7.1.35.o0.1.35.o1.1.35.o2.1.35.o8.1.39.",
    "o0.1.39.o1.1.39.o2.1.39.o8.2.3e.o3.1.3f.o0.1.3f.o1.1.3f.o2.1.3f.o3.1.3f.o8.3.3l.o0.1.3l.o1.1.3",
    "l.o2.1.3l.o8.1.3p.o1.2.3p.o8.2.31.o4.2.31.o6.2.31.p8.2.33.o1.2.33.o2.2.33.o7.2.33.oc.2.34.oc.4",
    ".35.o4.2.35.o6.2.35.o7.2.35.p8.2.35.oc.2.37.o2.2.37.o6.2.37.o7.2.37.p7.2.38.o2.4.39.o3.2.39.o4",
    ".2.39.o6.2.39.p8.6.3a.o2.2.3b.p7.3.3c.o1.2.3c.p7.2.3c.oc.6.3e.o1.2.3e.p7.2.3e.oc.5.3f.o4.2.3f.",
    "o6.2.3f.ob.4.3i.o1.2.3i.p7.2.3i.oc.2.3j.o1.2.3j.o2.2.3j.p7.2.3j.oc.2.3k.p7.2.3k.oc.4.3l.o3.2.3",
    "l.o4.2.3l.o6.2.3l.oa.2.3l.ob.2.3l.p8.2.3n.o2.2.3p.o2.3.3q.o1.2.3q.o7.2.3q.oc.13.3f.or.f.3l.or.",
    "u.31.oc.2.39.oc.2.3f.oc.2.3l.oc.2.7s.o4.2.7s.o1.2.7s.oc.2.7s.o0.3.74.o4.2.h7.o4.2.76.o4.4.37.o",
    "c.2.3b.oc.2.3f.p8.2.fb.o4.2.ki.oc.1.3a.oc.5.37.o1.4.3e.o0.2.75.o1.2.76.o1.2.7o.o1.2.31.of.2.31",
    ".oh.2.35.of.2.35.oh.2.39.of.2.39.oh.2.3f.of.2.3f.oh.2.3i.of.2.3i.oh.2.3l.of.2.3l.oh.2.3j.p6.2.",
    "3k.p6.4.38.oc.8.31.o7.2.35.p7.2.7m.o4.2.7l.o4.2.3f.o7.2.hf.o4.2.3p.o4.at.ua.o1.s.th.o1.1.tl.o1",
    ".1.tn.o1.1.tp.o1.1.ub.o1.q.tp.o8.1.u5.o8.1.tv.o1.1.u5.o1.1.u9.o1.3b.11o.o6.n.11l.o0.1.11l.o8.2",
    ".11j.o1.4.12m.o8.5.11q.o1.1.11o.o0.1.123.o6.p.13l.of.2b.11m.o6.f.11g.o6.2.11g.o8.4.11l.o6.4.16",
    "p.o8.2.11m.o8.2.11n.o8.4.11o.o4.2.11o.o8.2.11u.o8.4.179.o8.2.12d.o8.2.123.o4.2.123.o8.2.123.ob",
    ".2.127.o8.4.12b.o8.99.1h7.1ij.1.1h7.1ik.1.1i8.1ik.1.1h7.1il.1.1ia.1ik.4q.1ml.1ik.2.1m1.1ik.h.1",
    "mi.1ik.im.298.29s.8.29g.29s.3.29j.29s.4n.2e7.2du.1.2e7.2en.bs.2q7.2qm.3.2q7.2pu.1.2q7.2qn.28.2",
    "si.2un.1m.2u6.2tu.1.2u7.2tu.1.2u6.2un.3s.326.32m.3o.35v.36l.7.366.36l.1.366.36m.2.366.362.1.36",
    "a.36l.3v.3a6.39u.1.3a7.39u.1.3a6.3an.4e.3ep.3ea.2.3ep.3ef.1.3es.3ea.1.3ep.3ev.i8.415.41e.2n0.6",
    "o5.6pl.2.6o7.6pl.2.6o9.6pl.2.6ob.6pl.2.6od.6pl.4.6oh.6pl.19.6pq.6pl.2.6ps.6pl.3.6pu.6pl.1.6pv.",
    "6pl.2.6q2.6pl.lu.31.p5.2.32.o7.2.32.p3.2.32.ph.2.77.o1.2.34.o7.2.34.p3.2.34.ph.2.34.p7.2.34.pd",
    ".2.8j.o0.2.8j.o1.2.35.pd.2.35.pg.2.h9.o6.2.36.o7.2.37.o4.2.38.o7.2.38.p3.2.38.o8.2.38.p7.2.38.",
    "pe.2.39.pg.2.7f.o1.2.3b.o1.2.3b.p3.2.3b.ph.2.3c.p3.2.7hn.o4.2.3c.ph.2.3c.pd.2.3d.o1.2.3d.o7.2.",
    "3d.p3.2.3e.o7.2.3e.p3.2.3e.ph.2.3e.pd.2.7l.o1.2.7l.o8.2.ad.o0.2.ad.o1.2.3g.o1.2.3g.o7.2.3i.o7.",
    "2.3i.p3.2.7ir.o4.2.3i.ph.2.3j.o7.2.3j.p3.2.ar.o7.2.b1.o7.2.7j3.o7.2.3k.o7.2.3k.p3.2.3k.ph.2.3k",
    ".pd.2.3l.p4.2.3l.pg.2.3l.pd.2.b9.o1.2.bb.o8.2.3m.o3.2.3m.p3.2.3n.o0.2.3n.o1.2.3n.o8.2.3n.o7.2.",
    "3n.p3.2.3o.o7.2.3o.o8.2.3p.o7.2.3q.o2.2.3q.p3.2.3q.ph.1.38.ph.1.3k.o8.1.3n.oa.1.3p.oa.8.31.p3.",
    "2.31.o9.2.72.o1.2.72.o0.2.72.o9.2.72.o3.2.7l1.o2.2.83.o1.2.83.o0.2.83.o9.2.83.o3.2.7l1.o6.2.35",
    ".p3.2.35.o9.2.35.o3.2.7a.o1.2.7a.o0.2.7a.o9.2.7a.o3.2.7lp.o2.2.39.o9.2.39.p3.2.3f.p3.2.3f.o9.2",
    ".7k.o1.2.7k.o0.2.7k.o9.2.7k.o3.2.7md.o2.2.d1.o1.2.d1.o0.2.d1.o9.2.d1.o3.2.d1.p3.2.3l.p3.2.3l.o",
    "9.2.dg.o1.2.dg.o0.2.dg.o9.2.dg.o3.2.dg.p3.2.3p.o0.2.3p.p3.2.3p.o9.2.3p.o3.7.th.oj.1.th.ok.1.7o",
    "0.o0.1.7o1.o0.1.7o0.o1.1.7o1.o1.1.7o0.q2.1.7o1.q2.9.tl.oj.1.tl.ok.1.7og.o0.1.7oh.o0.1.7og.o1.1",
    ".7oh.o1.b.tn.oj.1.tn.ok.1.7p0.o0.1.7p1.o0.1.7p0.o1.1.7p1.o1.1.7p0.q2.1.7p1.q2.9.tp.oj.1.tp.ok.",
    "1.7pg.o0.1.7ph.o0.1.7pg.o1.1.7ph.o1.1.7pg.q2.1.7ph.q2.9.tv.oj.1.tv.ok.1.7q0.o0.1.7q1.o0.1.7q0.",
    "o1.1.7q1.o1.b.u5.oj.1.u5.ok.1.7qg.o0.1.7qh.o0.1.7qg.o1.1.7qh.o1.1.7qg.q2.1.7qh.q2.9.u9.oj.1.u9",
    ".ok.1.7r0.o0.1.7r1.o0.1.7r0.o1.1.7r1.o1.1.7r0.q2.1.7r1.q2.9.th.o0.2.tl.o0.2.tn.o0.2.tp.o0.2.tv",
    ".o0.2.u5.o0.2.u9.o0.1k.th.o6.1.th.o4.5.th.q2.g.tn.q2.a.tp.o6.1.tp.o4.1.ua.o0.4.tp.q2.1.ua.q2.9",
    ".u5.o6.1.u5.o4.1.ub.o0.2.u1.oj.1.u1.ok.1.u5.q2.1.ub.q2.f.u9.q2.d4.8cg.po.1.8ci.po.j.8ck.po.v.8",
    "eg.po.1.8ek.po.1.8ei.po.1l.8g3.po.5.8g8.po.3.8gb.po.o.8h3.po.2.8h5.po.r.8hs.po.3.8i3.po.3.8i5.",
    "po.2.8i8.po.n.1t.po.2.8j1.po.b.8id.po.1.1s.po.1.1u.po.1.8j4.po.1.8j5.po.3.8ji.po.1.8jj.po.3.8j",
    "m.po.1.8jn.po.7.8jq.po.1.8jr.po.3.8k2.po.1.8k3.po.3.8k6.po.1.8k7.po.13.8l2.po.1.8l8.po.1.8l9.p",
    "o.1.8lb.po.1h.8js.po.1.8jt.po.1.8kh.po.1.8ki.po.7.8li.po.1.8lj.po.1.8lk.po.1.8ll.po.3av.c2b.c4",
    "p.2.c2d.c4p.2.c2f.c4p.2.c2h.c4p.2.c2j.c4p.2.c2l.c4p.2.c2n.c4p.2.c2p.c4p.2.c2r.c4p.2.c2t.c4p.2.",
    "c2v.c4p.2.c31.c4p.3.c34.c4p.2.c36.c4p.2.c38.c4p.7.c3f.c4p.1.c3f.c4q.2.c3i.c4p.1.c3i.c4q.2.c3l.",
    "c4p.1.c3l.c4q.2.c3o.c4p.1.c3o.c4q.2.c3r.c4p.1.c3r.c4q.n.c26.c4p.a.c4t.c4p.e.c5b.c4p.2.c5d.c4p.",
    "2.c5f.c4p.2.c5h.c4p.2.c5j.c4p.2.c5l.c4p.2.c5n.c4p.2.c5p.c4p.2.c5r.c4p.2.c5t.c4p.2.c5v.c4p.2.c6",
    "1.c4p.3.c64.c4p.2.c66.c4p.2.c68.c4p.7.c6f.c4p.1.c6f.c4q.2.c6i.c4p.1.c6i.c4q.2.c6l.c4p.1.c6l.c4",
    "q.2.c6o.c4p.1.c6o.c4q.2.c6r.c4p.1.c6r.c4q.n.c56.c4p.3.c7f.c4p.1.c7g.c4p.1.c7h.c4p.1.c7i.c4p.4.",
    "c7t.c4p.1l6b.21ei.o7.r.21eq.o7.2lm.244p.245q.2.244r.245q.f.2455.245q.43.249h.2497.1.249i.2497.",
    "gs.24q7.24pu.1.24q7.24qn.1n.24s2.24u9.2.24s4.24tr.9.24sb.24u2.3.24sg.24u9.1k.24u2.24u2.2.24u2.",
    "24to.1.24u2.24u9.7j.255p.255q.1.255p.255g.2.255p.255t.7s.25do.25df.1.25dp.25df.rt.269l.269g.hv",
    "9.2o8u.2o8u.1.2o8u.2o99.1.2o8u.2o8v.1.2o99.2o8v.1.2o8u.2o90.1.2o91.2o8v.1.2o92.2o8v.1.2o91.2o9",
    "0.320.2rb7.2rb7.1.2rb3.2rb7.1.2rb9.2rb7"]

end Composite

/-! The parts of a Hangul syllable: 19 leading consonants, 21 vowels, and 27 trailing consonants
or none. -/

namespace Hangul

def syllableBase : Nat := 0xAC00
def leadingBase : Nat := 0x1100
def vowelBase : Nat := 0x1161
def trailingBase : Nat := 0x11A7

/-- The syllable of a leading consonant and a vowel, or of such a syllable and a trailing
consonant. -/
def compose? (first second : Char) : Option Char :=
  let a := first.toNat
  let b := second.toNat
  if leadingBase ≤ a ∧ a < leadingBase + 19 ∧ vowelBase ≤ b ∧ b < vowelBase + 21 then
    some (Char.ofNat (syllableBase + ((a - leadingBase) * 21 + (b - vowelBase)) * 28))
  else if syllableBase ≤ a ∧ a < syllableBase + 19 * 21 * 28 ∧ (a - syllableBase) % 28 = 0
      ∧ trailingBase < b ∧ b < trailingBase + 28 then
    some (Char.ofNat (a + (b - trailingBase)))
  else none

/-- The two parts of a syllable, the last of three apart from the first two. -/
def parts? (c : Char) : Option (Char × Char) :=
  let index := c.toNat - syllableBase
  if c.toNat < syllableBase ∨ 19 * 21 * 28 ≤ index then none
  else if index % 28 = 0 then
    some (Char.ofNat (leadingBase + index / (21 * 28)),
      Char.ofNat (vowelBase + index / 28 % 21))
  else some (Char.ofNat (c.toNat - index % 28), Char.ofNat (trailingBase + index % 28))

end Hangul

/-- The one character for two, if there is one. -/
def compose? (first second : Char) : Option Char :=
  match Hangul.compose? first second with
  | some whole => some whole
  | none =>
    (Composite.all.find? fun composite =>
      composite.first = first && composite.second = second).map Composite.whole

/-- The two characters a composite stands for. -/
def parts? (c : Char) : Option (Char × Char) :=
  match Hangul.parts? c with
  | some parts => some parts
  | none =>
    (Composite.all.find? fun composite => composite.whole = c).map fun composite =>
      (composite.first, composite.second)

end SecondFactor
