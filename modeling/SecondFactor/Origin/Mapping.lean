import SecondFactor.Text.RunTable

/-!
What becomes of each character of a domain name before it is compared: it stays, it is dropped, it
is replaced by other characters, or it makes the name invalid.
-/

namespace SecondFactor

/-- What becomes of the characters of a run. -/
inductive Mapping where
  | keep
  | drop
  | refuse
  /-- Every other one, from the first on, becomes the one behind it. -/
  | pairs
  /-- The first becomes `target`, and each one after it the next character. -/
  | shift (target : Nat)
  /-- Each becomes the same characters. -/
  | replace (codes : List Nat)
deriving DecidableEq, Repr

namespace Mapping

/-- Runs one after the other from code point `start` on. Each is given as its length, a number for
the kind of mapping, and the code points that some kinds have. -/
def runsFrom (start : Nat) : List Nat → List (Nat × Mapping)
  | length :: 0 :: rest => (start, .keep) :: runsFrom (start + length) rest
  | length :: 1 :: rest => (start, .drop) :: runsFrom (start + length) rest
  | length :: 2 :: rest => (start, .refuse) :: runsFrom (start + length) rest
  | length :: 3 :: rest => (start, .pairs) :: runsFrom (start + length) rest
  | length :: 4 :: target :: rest => (start, .shift target) :: runsFrom (start + length) rest
  | length :: kind :: rest =>
    (start, .replace (rest.take (kind - 4))) :: runsFrom (start + length) (rest.drop (kind - 4))
  | _ => []
termination_by numbers => numbers.length
decreasing_by all_goals simp; try omega

def table : RunTable Mapping where
  entries := (runsFrom 0 (RunTable.numbers (String.join
    ["21.0.q.4.31.15.0.10.2.1.4.10.7.0.1.6.10.o8.1.0.1.4.31.2.0.1.1.1.0.1.6.10.o4.2.0.2.4.1i.1.6.10.",
    "o1.1.4.ts.2.0.1.6.10.p7.1.4.1h.1.4.3f.1.0.1.7.1h.824.1k.1.7.1h.824.1i.1.7.1j.824.1k.1.0.n.4.70",
    ".1.0.7.4.7o.11.0.1g.3.1.6.39.o7.1.0.1.6.39.3a.1.6.39.3a.4.3.1.0.6.3.1.6.3c.5n.1.6.3c.5n.8.3.1.",
    "6.ls.3e.1e.3.1.4.7v.6.3.1.4.3j.1.0.1.4.ij.4.3.1.4.ik.2.3.2.4.im.2.3.1.0.1.4.et.1.4.ip.1.4.ir.2",
    ".3.1.4.j0.1.4.j3.1.0.1.4.j9.1.4.j8.2.3.2.0.1.4.jf.1.4.ji.1.0.1.4.jl.6.3.1.4.k0.2.3.1.4.k3.2.0.",
    "2.3.1.4.k8.2.3.2.4.ka.4.3.1.4.ki.2.3.2.0.2.3.6.0.1.6.34.bu.1.6.34.bu.1.6.34.bu.1.6.3c.3a.1.6.3",
    "c.3a.1.6.3c.3a.1.6.3e.3a.1.6.3e.3a.1.6.3e.3a.g.3.1.0.i.3.1.0.1.6.34.3q.1.6.34.3q.1.6.34.3q.2.3",
    ".1.4.cl.1.4.dv.18.3.1.4.cu.1.0.i.3.6.0.1.4.b35.2.3.1.4.cq.1.4.b36.2.0.2.3.1.4.c0.1.4.k9.1.4.kc",
    ".a.3.30.0.1.4.38.1.4.j6.1.4.3a.1.4.3i.1.4.jp.1.4.jr.1.4.k1.1.4.3n.1.4.3p.v.0.1.6.10.o6.1.6.10.",
    "o7.1.6.10.oa.1.6.10.p8.1.6.10.o3.1.6.10.ob.2.0.1.4.j3.1.4.3c.1.4.3j.1.4.3o.1.4.kl.2r.0.2.4.o0.",
    "1.0.1.4.oj.1.6.o8.o1.1.4.tp.9.0.1.1.10.0.4.3.1.4.lp.1.0.2.3.2.2.1.6.10.tp.3.0.1.4.1r.1.4.vj.4.",
    "2.1.6.10.o1.1.7.10.o8.o1.1.4.tc.1.4.5n.3.4.td.1.2.1.4.uc.1.2.2.4.ud.1.0.h.4.th.1.2.9.4.u3.13.0",
    ".1.4.un.1.4.ti.1.4.to.1.4.u5.1.4.ud.1.4.ub.1.4.u6.1.4.u0.1.0.o.3.1.4.tq.1.4.u1.1.4.u3.1.0.1.4.",
    "to.1.4.tl.1.0.2.3.1.4.u3.2.3.1.0.3.4.rr.g.4.12g.10.4.11g.1g.0.12.3.8.0.1m.3.1.4.16f.e.3.1.0.30",
    ".3.1.2.16.4.1b1.2.2.1e.0.1.6.1b5.1c2.3.0.2.2.3.0.1.2.1n.0.8.2.r.0.4.2.6.0.h.2.m.0.1.2.2o.0.1.6",
    ".1h7.1jk.1.6.1i8.1jk.1.6.1m7.1jk.1.6.1ia.1jk.34.0.1.2.1g.0.2.2.1r.0.2.2.35.0.e.2.1r.0.2.2.1h.0",
    ".2.2.f.0.1.2.s.0.2.2.1.0.1.2.b.0.5.2.10.0.7.2.2b.0.1.2.3l.0.1.6.28l.29s.1.6.28m.29s.1.6.28n.29",
    "s.1.6.28s.29s.1.6.291.29s.1.6.292.29s.1.6.29b.29s.1.6.29f.29s.14.0.1.2.8.0.2.2.2.0.2.2.m.0.1.2",
    ".7.0.1.2.1.0.3.2.4.0.2.2.9.0.2.2.2.0.2.2.4.0.8.2.1.0.4.2.1.6.2d1.2ds.1.6.2d2.2ds.1.2.1.6.2df.2",
    "ds.4.0.2.2.p.0.2.2.3.0.1.2.6.0.4.2.2.0.2.2.m.0.1.2.7.0.1.2.1.0.1.6.2hi.2hs.1.2.1.0.1.6.2ho.2hs",
    ".1.2.2.0.2.2.1.0.1.2.5.0.4.2.2.0.2.2.3.0.3.2.1.0.7.2.1.6.2gm.2hs.1.6.2gn.2hs.1.6.2gs.2hs.1.0.1",
    ".2.1.6.2hb.2hs.7.2.h.0.a.2.3.0.1.2.9.0.1.2.3.0.1.2.m.0.1.2.7.0.1.2.2.0.1.2.5.0.2.2.a.0.1.2.3.0",
    ".1.2.3.0.2.2.1.0.f.2.4.0.2.2.c.0.7.2.7.0.1.2.3.0.1.2.8.0.2.2.2.0.2.2.m.0.1.2.7.0.1.2.2.0.1.2.5",
    ".0.2.2.9.0.2.2.2.0.2.2.3.0.7.2.3.0.4.2.1.6.2p1.2ps.1.6.2p2.2ps.1.2.5.0.2.2.i.0.a.2.2.0.1.2.6.0",
    ".3.2.3.0.1.2.4.0.3.2.2.0.1.2.1.0.1.2.2.0.3.2.2.0.3.2.3.0.3.2.c.0.4.2.5.0.3.2.3.0.1.2.4.0.2.2.1",
    ".0.6.2.1.0.e.2.l.0.5.2.d.0.1.2.3.0.1.2.n.0.1.2.g.0.2.2.9.0.1.2.3.0.1.2.4.0.7.2.2.0.1.2.3.0.1.2",
    ".2.0.2.2.4.0.2.2.a.0.7.2.m.0.1.2.3.0.1.2.n.0.1.2.a.0.1.2.5.0.2.2.9.0.1.2.3.0.1.2.4.0.7.2.2.0.5",
    ".2.3.0.1.2.4.0.2.2.a.0.1.2.3.0.c.2.d.0.1.2.3.0.1.2.1j.0.1.2.3.0.1.2.6.0.4.2.g.0.2.2.q.0.1.2.3.",
    "0.1.2.i.0.3.2.o.0.1.2.9.0.1.2.1.0.2.2.7.0.3.2.1.0.4.2.6.0.1.2.1.0.1.2.8.0.6.2.a.0.2.2.3.0.c.2.",
    "1i.0.1.6.3id.3hi.7.0.4.2.t.0.15.2.2.0.1.2.1.0.1.2.5.0.1.2.o.0.1.2.1.0.1.2.c.0.1.6.3md.3li.a.0.",
    "2.2.5.0.1.2.1.0.1.2.7.0.1.2.a.0.2.2.1.6.3lb.3kp.1.6.3lb.3l1.2.0.10.2.c.0.1.4.3ob.1m.0.1.6.3q2.",
    "3tn.4.0.1.2.4.0.1.6.3qc.3tn.4.0.1.6.3qh.3tn.4.0.1.6.3qm.3tn.4.0.1.6.3qr.3tn.c.0.1.6.3q0.3tl.3.",
    "0.4.2.2.0.1.6.3rh.3ri.1.0.1.6.3rh.3rk.1.6.3ti.3s0.1.7.3ti.3rh.3s0.1.6.3tj.3s0.1.7.3tj.3rh.3s0.",
    "7.0.1.6.3rh.3s0.h.0.1.6.3si.3tn.4.0.1.2.4.0.1.6.3ss.3tn.4.0.1.6.3t1.3tn.4.0.1.6.3t6.3tn.4.0.1.",
    "6.3tb.3tn.c.0.1.6.3sg.3tl.3.0.1.2.f.0.1.2.d.0.15.2.50.0.16.4.b80.1.2.1.4.b97.5.2.1.4.b9d.2.2.1",
    "c.0.1.4.46s.32.0.2.1.78.0.1.2.4.0.2.2.7.0.1.2.1.0.1.2.4.0.2.2.19.0.1.2.4.0.2.2.11.0.1.2.4.0.2.",
    "2.7.0.1.2.1.0.1.2.4.0.2.2.f.0.1.2.1p.0.1.2.4.0.2.2.23.0.2.2.10.0.3.2.q.0.6.2.2m.0.2.2.6.4.4vg.",
    "2.2.k0.0.1.2.s.0.3.2.2p.0.7.2.m.0.9.2.o.0.9.2.k.0.c.2.d.0.1.2.3.0.1.2.2.0.c.2.1k.0.2.1.18.0.2.",
    "2.a.0.6.2.a.0.6.2.b.0.5.1.a.0.6.2.2p.0.7.2.1b.0.5.2.26.0.a.2.v.0.1.2.c.0.4.2.c.0.4.2.1.0.3.2.1",
    "a.0.2.2.5.0.b.2.1c.0.4.2.q.0.6.2.b.0.3.2.1u.0.2.2.21.0.1.2.t.0.2.2.b.0.6.2.a.0.6.2.e.0.2.2.1e.",
    "0.2.2.c.0.k.2.2d.0.1.2.56.0.8.2.1s.0.3.2.f.0.3.2.1j.0.1.4.11i.1.4.11k.1.4.11u.1.4.121.1.5.122.",
    "1.5.122.1.4.12a.1.4.133.1.4.19ib.2.3.5.2.1b.4.46g.2.2.3.4.47t.8.0.8.2.1b.0.5.2.1c.0.1.4.31.1.4",
    ".76.1.4.32.1.0.2.4.34.1.4.et.8.4.37.1.0.1.4.3f.1.4.h3.1.4.3g.1.4.3i.2.4.3k.1.4.3n.1.4.31.2.4.i",
    "g.1.4.782.1.4.32.2.4.34.1.4.ip.2.4.ir.1.4.37.1.0.1.4.3b.1.4.3d.1.4.ab.1.4.3f.1.4.ik.2.4.78m.1.",
    "4.3g.2.4.3k.1.4.78t.1.4.jf.1.4.3m.1.4.795.3.4.ti.2.4.u6.1.4.39.1.4.3i.2.4.3l.2.4.ti.1.4.u1.2.4",
    ".u6.d.0.1.4.11t.12.0.1.4.ii.1.4.33.1.4.il.1.4.7g.1.4.is.1.4.36.1.4.iv.1.4.j1.1.4.j5.3.4.j8.1.4",
    ".7br.1.4.kt.1.4.jd.1.4.7c5.1.4.kv.1.4.jh.1.4.jg.4.4.ji.1.4.jo.2.4.k2.1.4.db.2.4.k9.1.4.78s.2.4",
    ".kb.1.4.3q.3.4.kg.1.4.to.20.0.4m.3.4.0.1.6.31.lu.1.4.7j1.2.0.1.4.6v.1.0.30.3.8.0.8.4.7o0.6.0.2",
    ".2.6.4.7og.2.2.8.0.8.4.7p0.8.0.8.4.7pg.6.0.2.2.6.4.7q0.2.2.8.0.1.2.1.4.7qh.1.2.1.4.7qj.1.2.1.4",
    ".7ql.1.2.1.4.7qn.8.0.8.4.7r0.1.0.1.4.tc.1.0.1.4.td.1.0.1.4.te.1.0.1.4.tf.1.0.1.4.uc.1.0.1.4.ud",
    ".1.0.1.4.ue.2.2.1.6.7o0.tp.1.6.7o1.tp.1.6.7o2.tp.1.6.7o3.tp.1.6.7o4.tp.1.6.7o5.tp.1.6.7o6.tp.1",
    ".6.7o7.tp.1.6.7o0.tp.1.6.7o1.tp.1.6.7o2.tp.1.6.7o3.tp.1.6.7o4.tp.1.6.7o5.tp.1.6.7o6.tp.1.6.7o7",
    ".tp.1.6.7p0.tp.1.6.7p1.tp.1.6.7p2.tp.1.6.7p3.tp.1.6.7p4.tp.1.6.7p5.tp.1.6.7p6.tp.1.6.7p7.tp.1.",
    "6.7p0.tp.1.6.7p1.tp.1.6.7p2.tp.1.6.7p3.tp.1.6.7p4.tp.1.6.7p5.tp.1.6.7p6.tp.1.6.7p7.tp.1.6.7r0.",
    "tp.1.6.7r1.tp.1.6.7r2.tp.1.6.7r3.tp.1.6.7r4.tp.1.6.7r5.tp.1.6.7r6.tp.1.6.7r7.tp.1.6.7r0.tp.1.6",
    ".7r1.tp.1.6.7r2.tp.1.6.7r3.tp.1.6.7r4.tp.1.6.7r5.tp.1.6.7r6.tp.1.6.7r7.tp.2.0.1.6.7rg.tp.1.6.t",
    "h.tp.1.6.tc.tp.1.2.1.0.1.6.7tm.tp.2.4.7tg.1.4.7rg.1.4.tc.1.6.th.tp.1.6.10.oj.1.4.tp.1.6.10.oj.",
    "1.6.10.q2.1.7.10.o8.q2.1.6.7rk.tp.1.6.tn.tp.1.6.te.tp.1.2.1.0.1.6.7u6.tp.1.4.7ri.1.4.td.1.4.7r",
    "k.1.4.te.1.6.tn.tp.1.7.10.oj.o0.1.7.10.oj.o1.1.7.10.oj.q2.3.0.1.4.sg.2.2.2.0.2.4.7ug.1.4.7rm.1",
    ".4.tf.1.2.1.7.10.ok.o0.1.7.10.ok.o1.1.7.10.ok.q2.3.0.1.4.tg.4.0.2.4.7v0.1.4.7rq.1.4.ud.1.4.7v5",
    ".1.7.10.o8.o0.1.7.10.o8.o1.1.4.30.2.2.1.6.7rs.tp.1.6.u9.tp.1.6.ue.tp.1.2.1.0.1.6.7vm.tp.1.4.7r",
    "o.1.4.uc.1.4.7rs.1.4.ue.1.6.u9.tp.1.6.10.o1.1.6.10.ok.1.2.1.5.10.1.5.10.1.5.10.1.5.10.1.5.10.1",
    ".5.10.1.5.10.1.5.10.1.5.10.1.5.10.1.5.10.1.1.2.0.2.2.1.0.1.4.80g.5.0.1.6.10.pj.c.0.3.2.1.0.7.2",
    ".1.4.10.3.0.1.6.81i.81i.1.7.81i.81i.81i.1.0.1.6.81l.81l.1.7.81l.81l.81l.4.0.1.6.11.11.1.0.1.6.",
    "10.o5.8.0.1.6.1v.1v.1.6.1v.11.1.6.11.1v.d.0.1.8.81i.81i.81i.81i.7.0.1.4.10.5.1.5.2.6.1.1.4.1g.",
    "1.4.39.2.2.6.4.1k.1.4.1b.1.4.8gi.1.4.1t.2.4.18.1.4.3e.a.4.1g.1.4.1b.1.4.8gi.1.4.1t.2.4.18.1.2.",
    "1.4.31.1.4.35.1.4.3f.1.4.3o.1.4.ip.1.4.38.4.4.3b.1.4.3g.2.4.3j.3.2.8.0.1.6.3i.3j.p.0.e.2.11.0.",
    "f.2.1.7.31.1f.33.1.7.31.1f.3j.1.4.33.1.6.5g.33.1.0.1.7.33.1f.3f.1.7.33.1f.3l.1.4.ir.1.0.1.6.5g",
    ".36.1.4.37.1.5.38.1.5.38.1.5.38.1.5.38.1.4.97.1.5.39.1.5.39.1.5.3c.1.5.3c.1.0.1.4.3e.1.6.3e.3f",
    ".2.0.2.4.3g.1.5.3i.1.5.3i.1.5.3i.2.0.1.6.3j.3d.1.7.3k.35.3c.1.6.3k.3d.1.0.1.4.3q.1.0.1.4.u9.1.",
    "0.1.4.3q.1.0.1.4.3b.1.4.75.2.4.32.1.0.1.5.35.1.5.35.1.4.36.1.4.8ae.1.4.3d.1.4.3f.4.4.1eg.1.4.3",
    "9.1.0.1.7.36.31.3o.1.4.u0.1.5.tj.1.5.tj.1.4.u0.1.4.8gh.4.0.1.5.34.1.5.34.1.4.35.2.4.39.6.0.1.7",
    ".1h.824.1n.1.7.1h.824.1p.1.8.1h.824.1h.1g.1.7.1h.824.1j.1.7.1i.824.1j.1.7.1h.824.1l.1.7.1i.824",
    ".1l.1.7.1j.824.1l.1.7.1k.824.1l.1.7.1h.824.1m.1.7.1l.824.1m.1.7.1h.824.1o.1.7.1j.824.1o.1.7.1l",
    ".824.1o.1.7.1n.824.1o.1.6.1h.824.1.4.39.1.6.39.39.1.7.39.39.39.1.6.39.3m.1.4.3m.1.6.3m.39.1.7.",
    "3m.39.39.1.8.3m.39.39.39.1.6.39.3o.1.4.3o.1.6.3o.39.1.7.3o.39.39.1.4.3c.2.4.33.1.4.3d.1.4.39.1",
    ".6.39.39.1.7.39.39.39.1.6.39.3m.1.4.3m.1.6.3m.39.1.7.3m.39.39.1.8.3m.39.39.39.1.6.39.3o.1.4.3o",
    ".1.6.3o.39.1.7.3o.39.39.1.4.3c.2.4.33.1.4.3d.3.0.2.3.4.0.1.7.1g.824.1j.2.0.4.2.4s.0.1.6.8hb.8h",
    "b.1.7.8hb.8hb.8hb.1.0.1.6.8he.8he.1.7.8he.8he.8he.7o.0.2.4.c08.7v.0.m.2.b.0.l.2.9.4.1h.1.6.1h.",
    "1g.1.6.1h.1h.1.6.1h.1i.1.6.1h.1j.1.6.1h.1k.1.6.1h.1l.1.6.1h.1m.1.6.1h.1n.1.6.1h.1o.1.6.1h.1p.1",
    ".6.1i.1g.1.7.18.1h.19.1.7.18.1i.19.1.7.18.1j.19.1.7.18.1k.19.1.7.18.1l.19.1.7.18.1m.19.1.7.18.",
    "1n.19.1.7.18.1o.19.1.7.18.1p.19.1.8.18.1h.1g.19.1.8.18.1h.1h.19.1.8.18.1h.1i.19.1.8.18.1h.1j.1",
    "9.1.8.18.1h.1k.19.1.8.18.1h.1l.19.1.8.18.1h.1m.19.1.8.18.1h.1n.19.1.8.18.1h.1o.19.1.8.18.1h.1p",
    ".19.1.8.18.1i.1g.19.k.2.1.7.18.31.19.1.7.18.32.19.1.7.18.33.19.1.7.18.34.19.1.7.18.35.19.1.7.1",
    "8.36.19.1.7.18.37.19.1.7.18.38.19.1.7.18.39.19.1.7.18.3a.19.1.7.18.3b.19.1.7.18.3c.19.1.7.18.3",
    "d.19.1.7.18.3e.19.1.7.18.3f.19.1.7.18.3g.19.1.7.18.3h.19.1.7.18.3i.19.1.7.18.3j.19.1.7.18.3k.1",
    "9.1.7.18.3l.19.1.7.18.3m.19.1.7.18.3n.19.1.7.18.3o.19.1.7.18.3p.19.1.7.18.3q.19.q.4.31.q.4.31.",
    "1.4.1g.191.0.1.8.8hb.8hb.8hb.8hb.37.0.1.7.1q.1q.1t.1.6.1t.1t.1.7.1t.1t.1t.35.0.1.6.amt.po.4n.0",
    ".2.2.4a.0.1g.4.b1g.1g.0.2.3.1.4.jb.1.4.7bt.1.4.jt.2.0.6.3.1.4.ih.1.4.jh.1.4.ig.1.4.ii.1.0.2.3.",
    "1.0.2.3.5.0.1.4.3a.1.4.3m.2.4.hv.34.3.7.0.4.3.3.0.2.3.5.2.1d.0.1.2.1.0.5.2.1.0.2.2.1o.0.7.2.1.",
    "4.bb1.1.0.e.2.o.0.9.2.7.0.1.2.7.0.1.2.7.0.1.2.7.0.1.2.7.0.1.2.7.0.1.2.7.0.1.2.7.0.1.2.3u.0.12.",
    "2.q.0.1.2.4.0.1.4.qud.2j.0.1.4.17sv.c.2.1.4.jg0.1.4.jh8.1.4.jhm.1.4.jhv.1.4.jip.1.4.jk5.1.4.jk",
    "c.1.4.jl0.1.4.jlq.1.4.k9v.1.4.kb5.1.4.kbb.1.4.kc2.1.4.kcm.1.4.kdb.1.4.kf0.1.4.kfl.1.4.kg0.1.4.",
    "kkr.1.4.knp.1.4.kol.1.4.koq.1.4.kpo.1.4.kq1.1.4.kqs.1.4.kr9.1.4.ks2.1.4.ktm.1.4.ku8.1.4.kv3.1.",
    "4.lmn.1.4.lov.1.4.m7b.1.4.m82.1.4.m8a.1.4.m8l.1.4.m97.1.4.mbj.1.4.mqg.1.4.ms0.1.4.mvo.1.4.n0f.",
    "1.4.n12.1.4.n1o.1.4.n3e.1.4.n3h.1.4.ner.1.4.nf5.1.4.nfh.1.4.nfu.1.4.nji.1.4.njq.1.4.njv.1.4.nn",
    "k.1.4.nnu.1.4.nob.1.4.noj.1.4.nqg.1.4.nr1.1.4.nrj.1.4.nu3.1.4.og8.1.4.ohm.1.4.oib.1.4.p9f.1.4.",
    "p9k.1.4.pc7.1.4.pcn.1.4.pd4.1.4.pdp.1.4.pf0.1.4.pf5.1.4.png.1.4.po8.1.4.pp8.1.4.qp0.1.4.qr2.1.",
    "4.qrp.1.4.qtj.1.4.qub.1.4.quk.1.4.qur.1.4.r0f.1.4.r0k.1.4.r1k.1.4.s3b.1.4.sha.1.4.shm.1.4.shr.",
    "1.4.shv.1.4.si7.1.4.sip.1.4.sir.1.4.slc.1.4.ss4.1.4.ss9.1.4.t6s.1.4.t76.1.4.t8o.1.4.t8v.1.4.t9",
    "8.1.4.t9g.1.4.tcb.1.4.tci.1.4.tjm.1.4.tjt.1.4.tle.1.4.tlv.1.4.tne.1.4.tur.1.4.tv2.1.4.tvj.1.4.",
    "u9q.1.4.udo.1.4.udu.1.4.ujk.1.4.umb.1.4.unp.1.4.v3j.1.4.v7o.1.4.vpm.1.4.vqh.1.4.vsa.1.4.vtt.1.",
    "4.1001.1.4.100c.1.4.100i.1.4.101j.1.4.103v.1.4.1049.1.4.10f3.1.4.10fa.1.4.10fj.1.4.10fs.1.4.10",
    "gc.1.4.10gr.1.4.10gv.1.4.10je.1.4.10ji.1.4.10jo.1.4.11id.1.4.11jb.1.4.1220.1.4.122c.1.4.1233.1",
    ".4.12bu.1.4.12cb.1.4.12ei.1.4.12g0.1.4.131n.1.4.1326.1.4.132l.1.4.133o.1.4.134t.1.4.13b4.1.4.1",
    "3bg.1.4.13dj.1.4.13lb.1.4.13ma.1.4.13sr.1.4.13tg.1.4.13tl.1.4.144h.1.4.14a9.1.4.14e6.1.4.14ec.",
    "1.4.14eh.1.4.15bn.1.4.15c0.1.4.15gs.1.4.15lm.1.4.15lp.1.4.15n8.1.4.15qh.1.4.15qu.1.4.15r2.1.4.",
    "15r9.1.4.15ub.1.4.15vd.1.4.15vj.1.4.1601.1.4.1658.1.4.166r.1.4.166v.1.4.16cm.1.4.16cp.1.4.16dc",
    ".1.4.16l8.1.4.16mo.1.4.16mv.1.4.16p5.1.4.16pf.1.4.16pi.1.4.16ps.1.4.16qq.1.4.1775.1.4.17jl.1.4",
    ".17jv.1.4.17l5.1.4.17lr.1.4.17m3.1.4.17md.1.4.17mh.1.4.17np.1.4.17nt.1.4.17oe.1.4.17oj.1.4.17p",
    "0.1.4.17pr.1.4.17qa.1.4.17qi.1.4.17sd.1.4.17ss.1.4.17t0.1a.2.1.4.10.1.0.1.4.1e.1j.0.1.4.c0i.1.",
    "0.1.4.kq1.2.4.kq4.5.0.1.2.2m.0.2.2.2.0.1.6.10.c4p.1.6.10.c4q.2.0.1.6.c48.c4a.2v.0.1.6.c5j.c68.",
    "5.2.1b.0.1.2.2.4.480.1.4.4da.1.4.482.2.4.4dc.3.4.483.6.4.4dg.1.4.48q.3.4.486.1.4.491.a.4.489.l",
    ".4.4b1.1.1.2.4.48k.2.4.4e7.1.4.4ec.1.4.4ee.1.4.4ej.1.4.4en.1.4.4ep.1.4.48s.1.4.4et.1.4.4ev.2.4",
    ".48t.1.4.490.2.4.492.1.4.497.1.4.499.5.4.49b.1.4.49i.1.4.49m.1.4.4a0.1.4.4a7.1.4.4ac.2.4.4fh.3",
    ".4.4an.2.4.4c4.1.4.4c8.2.4.4ch.1.4.4ck.1.4.4cu.1.4.4d1.1.2.2.0.1.4.jg0.1.4.jkc.1.4.jg9.1.4.lmr",
    ".1.4.jga.1.4.jhd.1.4.jgb.1.4.t9i.1.4.jip.1.4.jgp.1.4.jg1.1.4.m99.1.4.lpg.1.4.jlq.26.0.a.2.g.0.",
    "1.7.18.480.19.1.7.18.482.19.1.7.18.483.19.1.7.18.485.19.1.7.18.486.19.1.7.18.487.19.1.7.18.489",
    ".19.1.7.18.48b.19.1.7.18.48c.19.1.7.18.48e.19.1.7.18.48f.19.1.7.18.48g.19.1.7.18.48h.19.1.7.18",
    ".48i.19.1.7.18.1b00.19.1.7.18.1c4o.19.1.7.18.1cn4.19.1.7.18.1drs.19.1.7.18.1ee8.19.1.7.18.1f0k",
    ".19.1.7.18.1g5c.19.1.7.18.1ha4.19.1.7.18.1hsg.19.1.7.18.1j18.19.1.7.18.1jjk.19.1.7.18.1k60.19.",
    "1.7.18.1koc.19.1.7.18.1lao.19.1.7.18.1i7s.19.1.8.18.1hh4.1i04.19.1.8.18.1hh4.1lm4.19.1.2.1.7.1",
    "8.jg0.19.1.7.18.jkc.19.1.7.18.jg9.19.1.7.18.lmr.19.1.7.18.jkk.19.1.7.18.kbd.19.1.7.18.jg3.19.1",
    ".7.18.kbb.19.1.7.18.jit.19.1.7.18.kq1.19.1.7.18.po8.19.1.7.18.s3b.19.1.7.18.r1k.19.1.7.18.pp8.",
    "19.1.7.18.14eh.19.1.7.18.lov.19.1.7.18.pf5.19.1.7.18.q1a.19.1.7.18.po9.19.1.7.18.u9u.19.1.7.18",
    ".l0d.19.1.7.18.sjp.19.1.7.18.1351.19.1.7.18.uat.19.1.7.18.klk.19.1.7.18.jn3.19.1.7.18.l3s.19.1",
    ".7.18.mr6.19.1.7.18.tn3.19.1.7.18.jo1.19.1.7.18.1367.19.1.7.18.kqk.19.1.7.18.ubd.19.1.7.18.joh",
    ".19.1.7.18.10fa.19.1.7.18.10fj.19.1.4.laf.1.4.njs.1.4.pc7.1.4.usf.8.0.1.7.3g.3k.35.1.6.1i.1h.1",
    ".6.1i.1i.1.6.1i.1j.1.6.1i.1k.1.6.1i.1l.1.6.1i.1m.1.6.1i.1n.1.6.1i.1o.1.6.1i.1p.1.6.1j.1g.1.6.1",
    "j.1h.1.6.1j.1i.1.6.1j.1j.1.6.1j.1k.1.6.1j.1l.1.4.480.2.4.482.3.4.485.1.4.489.2.4.48b.5.4.48e.1",
    ".4.1b00.1.4.1c4o.1.4.1cn4.1.4.1drs.1.4.1ee8.1.4.1f0k.1.4.1g5c.1.4.1ha4.1.4.1hsg.1.4.1j18.1.4.1",
    "jjk.1.4.1k60.1.4.1koc.1.4.1lao.1.6.1j1o.1b70.1.6.1i7s.1hqo.1.4.1hlg.1.0.1.4.jg0.1.4.jkc.1.4.jg",
    "9.1.4.lmr.1.4.jkk.1.4.kbd.1.4.jg3.1.4.kbb.1.4.jit.1.4.kq1.1.4.po8.1.4.s3b.1.4.r1k.1.4.pp8.1.4.",
    "14eh.1.4.lov.1.4.pf5.1.4.q1a.1.4.po9.1.4.u9u.1.4.l0d.1.4.sjp.1.4.1351.1.4.uat.1.4.klk.1.4.ueo.",
    "1.4.t9n.1.4.mbj.1.4.1439.1.4.k9a.1.4.krg.1.4.r78.1.4.1605.1.4.joh.1.4.kcp.1.4.qr3.1.4.jga.1.4.",
    "jhd.1.4.jgb.1.4.nf6.1.4.kvj.1.4.kpr.1.4.msn.1.4.mr6.1.4.tn3.1.4.jo1.1.4.1367.1.4.kqk.1.4.m8s.1",
    ".6.1j.1m.1.6.1j.1n.1.6.1j.1o.1.6.1j.1p.1.6.1k.1g.1.6.1k.1h.1.6.1k.1i.1.6.1k.1j.1.6.1k.1k.1.6.1",
    "k.1l.1.6.1k.1m.1.6.1k.1n.1.6.1k.1o.1.6.1k.1p.1.6.1l.1g.1.6.1h.po8.1.6.1i.po8.1.6.1j.po8.1.6.1k",
    ".po8.1.6.1l.po8.1.6.1m.po8.1.6.1n.po8.1.6.1o.po8.1.6.1p.po8.1.7.1h.1g.po8.1.7.1h.1h.po8.1.7.1h",
    ".1i.po8.1.6.38.37.1.7.35.3i.37.1.6.35.3m.1.7.3c.3k.34.1.4.c52.1.4.c54.1.4.c56.1.4.c58.2.4.c5a.",
    "1.4.c5d.1.4.c5f.1.4.c5h.1.4.c5j.1.4.c5l.1.4.c5n.1.4.c5p.1.4.c5r.1.4.c5t.1.4.c5v.1.4.c61.1.4.c6",
    "4.1.4.c66.1.4.c68.6.4.c6a.1.4.c6i.1.4.c6l.1.4.c6o.1.4.c6r.5.4.c6u.1.4.c74.1.4.c76.6.4.c78.4.4.",
    "c7f.1.6.jn4.l4c.1.8.c52.c6h.c7s.c68.1.8.c52.c7b.c6l.c51.1.8.c52.c7j.c6q.c52.1.7.c52.c7s.c7b.1.",
    "8.c54.c6b.c7j.c5g.1.7.c54.c7j.c61.1.7.c56.c59.c7j.1.9.c58.c5p.c5f.c7s.c69.1.8.c58.c7s.c5b.c7s.",
    "1.7.c5a.c7j.c5p.1.7.c5a.c7s.c70.1.7.c5b.c54.c7a.1.8.c5b.c79.c63.c68.1.8.c5b.c7d.c7a.c7s.1.7.c5",
    "c.c7d.c7j.1.7.c5c.c7j.c6u.1.6.c5e.c5c.1.7.c5e.c6b.c7s.1.8.c5d.c75.c7a.c7s.1.8.c5e.c7b.c60.c7s.",
    "1.6.c5d.c7d.1.9.c5d.c7d.c5g.c79.c70.1.a.c5d.c7d.c71.c7s.c68.c7b.1.9.c5d.c7d.c7f.c63.c68.1.7.c5",
    "g.c79.c70.1.9.c5g.c79.c70.c68.c7j.1.9.c5f.c7b.c5s.c54.c7d.1.8.c5f.c7d.c7s.c6d.1.7.c5h.c7s.c5p.",
    "1.7.c5j.c7b.c6a.1.7.c5j.c7s.c6t.1.8.c5l.c54.c5f.c7b.1.9.c5l.c7j.c61.c7s.c70.1.8.c5n.c7a.c7j.c5",
    "g.1.7.c5r.c7j.c61.1.7.c5r.c7j.c68.1.7.c60.c7s.c5p.1.6.c67.c5n.1.6.c69.c7b.1.6.c68.c7j.1.6.c6a.",
    "c6e.1.7.c6e.c63.c68.1.7.c6f.c54.c64.1.9.c6h.c7s.c5r.c7j.c68.1.7.c6h.c7s.c64.1.8.c6g.c7s.c7c.c7",
    "b.1.9.c6k.c52.c5p.c68.c7b.1.7.c6k.c5f.c7b.1.6.c6k.c5j.1.6.c6j.c7b.1.9.c6l.c51.c79.c63.c69.1.8.",
    "c6l.c53.c7s.c68.1.9.c6m.c63.c5n.c57.c7b.1.7.c6l.c79.c7j.1.9.c6o.c5f.c5v.c7s.c7b.1.6.c6q.c5t.1.",
    "7.c6q.c6b.c6i.1.7.c6o.c7b.c64.1.7.c6q.c7j.c5p.1.7.c6q.c7s.c5o.1.7.c6p.c7s.c5v.1.8.c6t.c54.c7j.",
    "c68.1.7.c6s.c7b.c68.1.6.c6r.c7j.1.7.c6t.c7j.c69.1.7.c6r.c7s.c7b.1.7.c6r.c7s.c7j.1.8.c6u.c54.c5",
    "f.c7d.1.7.c6u.c54.c7b.1.7.c6u.c63.c6f.1.7.c6u.c7b.c5f.1.9.c6u.c7j.c5n.c77.c7j.1.8.c6v.c5f.c7d.",
    "c7j.1.6.c6v.c7a.1.9.c6v.c7a.c6g.c7s.c7b.1.6.c71.c5c.1.8.c71.c5c.c68.c7j.1.8.c71.c7s.c68.c7b.1.",
    "7.c74.c7s.c69.1.7.c74.c7s.c7b.1.7.c76.c52.c7j.1.8.c7a.c63.c68.c7b.1.6.c7a.c79.1.7.c7b.c6k.c7s.",
    "1.8.c7b.c7s.c6m.c7b.1.6.c7c.c70.1.9.c7c.c7j.c68.c5i.c7j.1.7.c7f.c63.c68.1.6.1g.s5p.1.6.1h.s5p.",
    "1.6.1i.s5p.1.6.1j.s5p.1.6.1k.s5p.1.6.1l.s5p.1.6.1m.s5p.1.6.1n.s5p.1.6.1o.s5p.1.6.1p.s5p.1.7.1h",
    ".1g.s5p.1.7.1h.1h.s5p.1.7.1h.1i.s5p.1.7.1h.1j.s5p.1.7.1h.1k.s5p.1.7.1h.1l.s5p.1.7.1h.1m.s5p.1.",
    "7.1h.1n.s5p.1.7.1h.1o.s5p.1.7.1h.1p.s5p.1.7.1i.1g.s5p.1.7.1i.1h.s5p.1.7.1i.1i.s5p.1.7.1i.1j.s5",
    "p.1.7.1i.1k.s5p.1.7.38.3g.31.1.6.34.31.1.6.31.3l.1.7.32.31.3i.1.6.3f.3m.1.6.3g.33.1.6.34.3d.1.",
    "7.34.3d.1i.1.7.34.3d.1j.1.6.39.3l.1.6.njj.ogg.1.6.phd.l4c.1.6.m97.qr3.1.6.pge.r5r.1.8.q1a.nof.",
    "joq.u9u.1.6.3g.31.1.6.3e.31.1.6.ts.31.1.6.3d.31.1.6.3b.31.1.6.3b.32.1.6.3d.32.1.6.37.32.1.7.33",
    ".31.3c.1.8.3b.33.31.3c.1.6.3g.36.1.6.3e.36.1.6.ts.36.1.6.ts.37.1.6.3d.37.1.6.3b.37.1.6.38.3q.1",
    ".7.3b.38.3q.1.7.3d.38.3q.1.7.37.38.3q.1.7.3k.38.3q.1.6.ts.3c.1.6.3d.3c.1.6.34.3c.1.6.3b.3c.1.6",
    ".36.3d.1.6.3e.3d.1.6.ts.3d.1.6.3d.3d.1.6.33.3d.1.6.3b.3d.1.7.3d.3d.1i.1.7.33.3d.1i.1.6.3d.1i.1",
    ".7.3b.3d.1i.1.7.3d.3d.1j.1.7.33.3d.1j.1.6.3d.1j.1.7.3b.3d.1j.1.7.3d.8gl.3j.1.8.3d.8gl.3j.1i.1.",
    "6.3g.31.1.7.3b.3g.31.1.7.3d.3g.31.1.7.37.3g.31.1.7.3i.31.34.1.9.3i.31.34.8gl.3j.1.a.3i.31.34.8",
    "gl.3j.1i.1.6.3g.3j.1.6.3e.3j.1.6.ts.3j.1.6.3d.3j.1.6.3g.3m.1.6.3e.3m.1.6.ts.3m.1.6.3d.3m.1.6.3",
    "b.3m.1.6.3d.3m.1.6.3g.3n.1.6.3e.3n.1.6.ts.3n.1.6.3d.3n.1.6.3b.3n.1.6.3d.3n.1.6.3b.u9.1.6.3d.u9",
    ".1.2.1.6.32.3h.1.6.33.33.1.6.33.34.1.8.33.8gl.3b.37.1.2.1.6.34.32.1.6.37.3p.1.6.38.31.1.6.38.3",
    "g.1.6.39.3e.1.6.3b.3b.1.6.3b.3d.1.6.3b.3k.1.6.3c.3d.1.6.3c.3e.1.7.3c.3f.37.1.6.3c.3o.1.6.3d.32",
    ".1.7.3d.39.3c.1.7.3d.3f.3c.1.6.3g.38.1.2.1.7.3g.3g.3d.1.6.3g.3i.1.6.3j.3i.1.6.3j.3m.1.6.3n.32.",
    "1.7.3m.8gl.3d.1.7.31.8gl.3d.1.6.1h.pf5.1.6.1i.pf5.1.6.1j.pf5.1.6.1k.pf5.1.6.1l.pf5.1.6.1m.pf5.",
    "1.6.1n.pf5.1.6.1o.pf5.1.6.1p.pf5.1.7.1h.1g.pf5.1.7.1h.1h.pf5.1.7.1h.1i.pf5.1.7.1h.1j.pf5.1.7.1",
    "h.1k.pf5.1.7.1h.1l.pf5.1.7.1h.1m.pf5.1.7.1h.1n.pf5.1.7.1h.1o.pf5.1.7.1h.1p.pf5.1.7.1i.1g.pf5.1",
    ".7.1i.1h.pf5.1.7.1i.1i.pf5.1.7.1i.1j.pf5.1.7.1i.1k.pf5.1.7.1i.1l.pf5.1.7.1i.1m.pf5.1.7.1i.1n.p",
    "f5.1.7.1i.1o.pf5.1.7.1i.1p.pf5.1.7.1j.1g.pf5.1.7.1j.1h.pf5.1.7.37.31.3c.s4d.0.3.2.1n.0.9.2.as.",
    "0.k.2.1e.3.i.0.s.3.1.4.12a.1.4.12c.2q.0.8.2.12.0.e.3.2.0.1u.3.1.4.19rf.8.0.4.3.1.4.7bp.a.3.3.0",
    ".2.3.1.4.j5.2.0.4.3.2.0.k.3.1.4.j6.1.4.is.1.4.j1.1.4.jc.1.4.ja.1.0.1.4.ku.1.4.k7.1.4.kt.1.4.1a",
    "qj.g.3.1.4.19sk.1.4.k2.1.4.7ce.4.3.1.4.j4.g.3.1.4.cr.k.2.1.4.3j.1.4.33.1.4.36.1.4.3h.2.3.1.0.1",
    ".4.97.1.4.aj.1j.0.3.2.a.0.6.2.1o.0.8.2.26.0.8.2.c.0.6.2.3k.0.b.2.u.0.3.2.2e.0.1.2.b.0.4.2.11.0",
    ".1.2.1n.0.9.2.e.0.2.2.a.0.2.2.37.0.o.2.s.0.a.2.6.0.2.2.6.0.2.2.6.0.9.2.7.0.1.2.7.0.1.2.1c.0.1.",
    "4.19p7.1.4.1apn.1.4.jb.1.4.1aqi.9.0.1.4.kd.2.0.4.2.2g.4.4t0.1e.0.2.2.a.0.6.2.at4.0.c.2.n.0.4.2",
    ".1h.0.884.2.1.4.1328.1.4.pnk.1.4.13ma.1.4.1368.1.4.rmh.1.4.jhi.1.4.kv5.1.5.17ss.1.5.17ss.1.4.m",
    "ah.1.4.14eh.1.4.lc7.1.4.ma8.1.4.ofm.1.4.tj9.1.4.vs5.1.4.11hv.1.4.11tq.1.4.127o.1.4.144f.1.4.qg",
    "2.1.4.r8r.1.4.s6p.1.4.suu.1.4.111t.1.4.14ba.1.4.16fh.1.4.jk2.1.4.krl.1.4.qo4.1.4.sgr.1.4.11hd.",
    "1.4.17gu.1.4.nag.1.4.rvb.1.4.11ed.1.4.12b4.1.4.om9.1.4.10eo.1.4.120v.1.4.nma.1.4.pon.1.4.rba.1",
    ".4.sns.1.4.146e.1.4.js6.1.4.kdn.1.4.kmu.1.4.p64.1.4.qmj.1.4.sgg.1.4.tn7.1.4.1001.1.4.11g6.1.4.",
    "11is.1.4.13ff.1.4.15pi.1.4.16rf.1.4.17fq.1.4.u4c.1.4.ubv.1.4.vd0.1.4.10u9.1.4.14o4.1.4.17jv.1.",
    "4.12mm.1.4.m6v.1.4.no4.1.4.v30.1.4.103u.1.4.sj2.1.4.u6a.1.4.1362.1.4.15nn.1.4.m6o.1.4.n32.1.4.",
    "qgj.1.4.req.1.4.rof.1.4.v9f.1.4.vhn.1.4.15ib.1.4.kmi.1.4.104b.1.4.kes.1.4.kec.1.4.ugs.1.4.vdu.",
    "1.4.10vh.1.4.15jl.1.4.12s0.1.4.omf.1.4.qg2.1.4.12nu.1.4.jhp.1.4.mv7.1.4.o0i.1.4.ss7.1.4.tbg.1.",
    "4.kon.1.4.u7r.1.4.jtv.1.4.nt9.1.4.jgd.1.4.r6c.1.4.pbo.1.4.v92.1.4.ku3.1.4.m2u.1.4.to1.1.4.1129",
    ".1.4.12la.1.4.qtq.1.4.13tg.1.4.r48.1.4.onu.1.4.10n5.1.4.ot0.1.4.tb5.1.4.jle.1.4.kb9.1.4.ke9.1.",
    "4.q41.1.4.v77.1.4.10jf.1.4.12mi.1.4.14ef.1.4.knl.1.4.l22.1.4.mbj.1.4.nnc.1.4.pe5.1.4.rvu.1.4.u",
    "9a.1.4.15dd.1.4.16ja.1.4.17kn.1.4.17me.1.4.kkr.1.4.pm6.1.4.qrn.1.4.13r2.1.4.njk.1.4.ocg.1.4.og",
    "0.1.4.p4q.1.4.rp3.1.4.sa9.1.4.t49.1.4.uea.1.4.vfk.1.4.103f.1.4.13p6.1.4.117e.1.4.1413.1.4.14qa",
    ".1.4.kgn.1.4.kl3.1.4.l5t.1.4.s68.1.4.1262.1.4.12la.1.4.nm9.1.4.nvl.1.4.orr.1.4.qte.1.4.v1u.1.4",
    ".srl.1.4.jn4.1.4.lnp.1.4.mv7.1.4.ndq.1.4.o0s.1.4.sti.1.4.t39.1.4.vsq.1.4.1026.1.4.14hk.1.4.15n",
    "m.1.4.15q8.1.4.160o.1.4.jsb.1.4.ude.1.4.14dk.1.4.15lo.1.4.o71.1.4.jk6.1.4.k6q.1.4.mve.1.4.n1v.",
    "1.4.pcp.1.4.qg2.1.4.see.1.4.ti2.1.4.117s.1.4.143s.1.4.17sd.1.4.pk8.1.4.15he.1.4.kk9.1.4.prr.1.",
    "4.pvj.1.4.ra1.1.4.rks.1.4.t09.1.4.tap.1.4.u3b.1.4.v8g.1.4.162u.1.4.kbd.1.4.ohe.1.4.15jo.1.4.k1",
    "b.1.4.n8p.1.4.rfa.1.4.13pa.1.4.nsb.1.4.oa4.1.4.q0n.1.4.ss7.1.4.15k6.1.4.kh9.1.4.l0f.1.4.n35.1.",
    "4.pgj.1.4.pqe.1.4.q58.1.4.r75.1.4.t06.1.4.tf2.1.4.vrp.1.4.126f.1.4.1271.1.4.14ec.1.4.15n2.1.4.",
    "kpv.1.4.rlq.1.4.l0t.1.4.seg.1.4.t4o.1.4.11fq.1.4.15l3.1.4.172n.1.4.17kv.1.4.psn.1.4.reb.1.4.10",
    "f8.1.4.umb.1.4.up0.1.4.v4i.1.4.sm0.1.4.s4p.1.4.12qo.1.4.jm0.1.4.10pm.1.4.khq.1.4.kg7.1.4.nl6.1",
    ".4.omj.1.4.v6m.1.4.ms5.1.4.r8u.1.4.plk.1.4.13pr.1.4.122c.1.4.15id.1.4.12cb.1.4.nmj.1.4.ka0.1.4",
    ".le0.2.0.1.4.m2q.1.0.1.4.pjk.2.0.1.4.keu.1.4.spa.1.4.tma.1.4.u9s.1.4.uau.1.4.ub5.1.4.ucf.1.4.1",
    "5qm.1.4.v5u.1.4.vtt.1.0.1.4.11gi.1.0.1.4.12no.2.0.1.4.141o.1.4.147t.3.0.1.4.167f.1.4.167s.1.4.",
    "1698.1.4.17dk.1.4.146u.1.4.15ln.1.4.jte.1.4.k77.1.4.kad.1.4.km9.1.4.kn4.1.4.kqh.1.4.lct.1.4.lg",
    "6.1.4.lj8.1.4.m20.1.4.m58.1.4.n34.1.4.n3e.1.4.o4k.1.4.ob8.1.4.oce.1.4.ofi.1.4.paf.1.4.pf2.1.4.",
    "pkh.1.4.q45.1.4.rbn.1.4.rgq.1.4.rp2.1.4.sbe.1.4.shb.1.4.t12.1.4.u4h.1.4.u9u.1.4.ua9.1.4.ua8.1.",
    "4.uag.1.4.uam.1.4.uat.2.4.ucd.1.4.ui0.1.4.uk1.1.4.uu0.1.4.vfk.1.4.vg9.1.4.vi1.1.4.vri.1.4.1005",
    ".1.4.10fd.1.5.10jp.1.5.10jp.1.4.112n.1.4.128g.1.4.12cm.1.4.12o1.1.4.12pp.1.4.136j.1.4.1388.1.4",
    ".13tm.1.4.141o.1.4.15n3.1.4.15vv.1.4.161r.1.4.o3l.1.4.4gne.1.4.10go.2.2.1.4.jh6.1.4.kdl.1.4.kb",
    "8.1.4.js0.1.4.ka5.1.4.kc0.1.4.km7.1.4.knq.1.4.lct.1.4.lal.1.4.lcp.1.4.lf2.1.4.m2q.1.4.m5j.1.4.",
    "ma4.1.4.mak.1.4.mj2.1.4.mp8.1.4.nmi.1.4.nmp.1.4.nr9.1.4.ntd.1.4.o6o.1.4.oae.1.4.o88.1.4.oce.1.",
    "4.ob0.1.4.ofi.1.4.ohk.1.4.ou4.1.4.p0s.1.4.p2i.1.4.pam.1.4.pjk.1.4.pon.1.4.por.1.4.pqm.1.4.qrp.",
    "1.4.qtq.1.4.ra1.1.4.rmr.1.4.rmb.1.4.rp2.1.4.s0u.1.4.sbe.1.4.tt7.1.4.shl.1.4.slf.1.4.spa.1.4.t3",
    "h.1.4.t86.1.4.t9r.1.4.tgt.1.4.tgv.1.4.tma.1.4.tmr.1.4.tnk.1.4.tqa.1.4.tq0.1.4.u6c.1.4.ulh.1.4.",
    "uu0.1.4.v3r.1.4.var.1.4.vfk.1.4.vpu.1.4.1005.1.4.10qi.1.4.10vf.1.4.11rp.1.4.12a1.1.4.12c6.1.4.",
    "12cm.1.4.12lv.1.4.12no.1.4.12mb.1.4.12o1.1.4.12nu.1.4.12nd.1.4.12pp.1.4.12sa.1.4.1388.1.4.13po",
    ".1.4.143i.1.4.14cp.1.4.14jm.1.4.15js.1.4.15n3.1.4.15qm.1.4.15ur.1.4.15vv.1.4.160b.1.4.161r.1.4",
    ".16oi.1.4.17ss.1.4.4a2a.1.4.4a24.1.4.4cul.1.4.est.1.4.g0o.1.4.g1p.1.4.4ki9.1.4.4n6g.1.4.4vmj.1",
    ".4.17q3.1.4.17se.16.2.1.6.36.36.1.6.36.39.1.6.36.3c.1.7.36.36.39.1.7.36.36.3c.1.6.3j.3k.1.6.3j",
    ".3k.c.2.1.6.1bk.1bm.1.6.1bk.1b5.1.6.1bk.1bb.1.6.1bu.1bm.1.6.1bk.1bd.5.2.1.6.1ep.1dk.1.0.1.6.1f",
    "i.1dn.1.4.1f2.1.4.1eg.2.4.1ej.3.4.1er.1.4.1f8.1.4.1fa.1.4.1b.1.6.1f9.1e1.1.6.1f9.1e2.1.7.1f9.1",
    "ds.1e1.1.7.1f9.1ds.1e2.1.6.1eg.1dn.1.6.1eg.1do.1.6.1eg.1ds.1.6.1eh.1ds.1.6.1ei.1ds.1.6.1ej.1ds",
    ".1.6.1ek.1ds.1.6.1el.1ds.1.6.1em.1ds.1.2.1.6.1eo.1ds.1.6.1ep.1ds.1.6.1eq.1ds.1.6.1er.1ds.1.6.1",
    "es.1ds.1.2.1.6.1eu.1ds.1.2.1.6.1f0.1ds.1.6.1f1.1ds.1.2.1.6.1f3.1ds.1.6.1f4.1ds.1.2.1.6.1f6.1ds",
    ".1.6.1f7.1ds.1.6.1f8.1ds.1.6.1f9.1ds.1.6.1fa.1ds.1.6.1el.1dp.1.6.1eh.1dv.1.6.1er.1dv.1.6.1f4.1",
    "dv.1.6.1eg.1es.1.5.1jh.1.5.1jh.1.5.1jr.1.5.1jr.1.5.1jr.1.5.1jr.1.5.1ju.1.5.1ju.1.5.1ju.1.5.1ju",
    ".1.5.1k0.1.5.1k0.1.5.1k0.1.5.1k0.1.5.1jq.1.5.1jq.1.5.1jq.1.5.1jq.1.5.1jv.1.5.1jv.1.5.1jv.1.5.1",
    "jv.1.5.1jp.1.5.1jp.1.5.1jp.1.5.1jp.1.5.1l4.1.5.1l4.1.5.1l4.1.5.1l4.1.5.1l6.1.5.1l6.1.5.1l6.1.5",
    ".1l6.1.5.1k4.1.5.1k4.1.5.1k4.1.5.1k4.1.5.1k3.1.5.1k3.1.5.1k3.1.5.1k3.1.5.1k6.1.5.1k6.1.5.1k6.1",
    ".5.1k6.1.5.1k7.1.5.1k7.1.5.1k7.1.5.1k7.1.5.1kd.1.5.1kd.1.5.1kc.1.5.1kc.1.5.1ke.1.5.1ke.1.5.1k8",
    ".1.5.1k8.1.5.1ko.1.5.1ko.1.5.1kh.1.5.1kh.1.5.1l9.1.5.1l9.1.5.1l9.1.5.1l9.1.5.1lf.1.5.1lf.1.5.1",
    "lf.1.5.1lf.1.5.1lj.1.5.1lj.1.5.1lj.1.5.1lj.1.5.1lh.1.5.1lh.1.5.1lh.1.5.1lh.1.5.1lq.1.5.1lq.1.5",
    ".1lr.1.5.1lr.1.5.1lr.1.5.1lr.1.5.1m0.1.5.1m0.1.5.1m1.1.5.1m1.1.5.1m1.1.5.1m1.1.5.1lu.1.5.1lu.1",
    ".5.1lu.1.5.1lu.1.5.1mi.1.5.1mi.1.5.1mj.1.5.1mj.11.0.1.5.1ld.1.5.1ld.1.5.1ld.1.5.1ld.1.5.1m7.1.",
    "5.1m7.1.5.1m6.1.5.1m6.1.5.1m8.1.5.1m8.1.6.1m7.1jk.1.5.1mb.1.5.1mb.1.5.1m5.1.5.1m5.1.5.1m9.1.5.",
    "1m9.1.5.1mg.1.5.1mg.1.5.1mg.1.5.1mg.1.5.1i9.1.5.1i9.1.6.1h6.1h7.1.6.1h6.1h7.1.6.1h6.1ml.1.6.1h",
    "6.1ml.1.6.1h6.1i8.1.6.1h6.1i8.1.6.1h6.1m7.1.6.1h6.1m7.1.6.1h6.1m6.1.6.1h6.1m6.1.6.1h6.1m8.1.6.",
    "1h6.1m8.1.6.1h6.1mg.1.6.1h6.1mg.1.6.1h6.1mg.1.6.1h6.1i9.1.6.1h6.1i9.1.6.1h6.1i9.1.5.1mc.1.5.1m",
    "c.1.5.1mc.1.5.1mc.1.6.1h6.1hc.1.6.1h6.1hd.1.6.1h6.1i5.1.6.1h6.1i9.1.6.1h6.1ia.1.6.1h8.1hc.1.6.",
    "1h8.1hd.1.6.1h8.1he.1.6.1h8.1i5.1.6.1h8.1i9.1.6.1h8.1ia.1.6.1ha.1hc.1.6.1ha.1hd.1.6.1ha.1he.1.",
    "6.1ha.1i5.1.6.1ha.1i9.1.6.1ha.1ia.1.6.1hb.1hc.1.6.1hb.1i5.1.6.1hb.1i9.1.6.1hb.1ia.1.6.1hc.1hd.",
    "1.6.1hc.1i5.1.6.1hd.1hc.1.6.1hd.1i5.1.6.1he.1hc.1.6.1he.1hd.1.6.1he.1i5.1.6.1hj.1hc.1.6.1hj.1h",
    "d.1.6.1hj.1he.1.6.1hj.1i5.1.6.1hl.1hd.1.6.1hl.1i5.1.6.1hm.1hc.1.6.1hm.1hd.1.6.1hm.1he.1.6.1hm.",
    "1i5.1.6.1hn.1hd.1.6.1hn.1i5.1.6.1ho.1i5.1.6.1hp.1hc.1.6.1hp.1i5.1.6.1hq.1hc.1.6.1hq.1i5.1.6.1i",
    "1.1hc.1.6.1i1.1hd.1.6.1i1.1he.1.6.1i1.1i5.1.6.1i1.1i9.1.6.1i1.1ia.1.6.1i2.1hd.1.6.1i2.1i5.1.6.",
    "1i2.1i9.1.6.1i2.1ia.1.6.1i3.1h7.1.6.1i3.1hc.1.6.1i3.1hd.1.6.1i3.1he.1.6.1i3.1i4.1.6.1i3.1i5.1.",
    "6.1i3.1i9.1.6.1i3.1ia.1.6.1i4.1hc.1.6.1i4.1hd.1.6.1i4.1he.1.6.1i4.1i5.1.6.1i4.1i9.1.6.1i4.1ia.",
    "1.6.1i5.1hc.1.6.1i5.1hd.1.6.1i5.1he.1.6.1i5.1i5.1.6.1i5.1i9.1.6.1i5.1ia.1.6.1i6.1hc.1.6.1i6.1h",
    "d.1.6.1i6.1he.1.6.1i6.1i5.1.6.1i6.1i9.1.6.1i6.1ia.1.6.1i7.1hc.1.6.1i7.1i5.1.6.1i7.1i9.1.6.1i7.",
    "1ia.1.6.1ia.1hc.1.6.1ia.1hd.1.6.1ia.1he.1.6.1ia.1i5.1.6.1ia.1i9.1.6.1ia.1ia.1.6.1hg.1jg.1.6.1h",
    "h.1jg.1.6.1i9.1jg.1.7.10.1ic.1ih.1.7.10.1id.1ih.1.7.10.1ie.1ih.1.7.10.1if.1ih.1.7.10.1ig.1ih.1",
    ".7.10.1ih.1jg.1.6.1h6.1hh.1.6.1h6.1hi.1.6.1h6.1i5.1.6.1h6.1i6.1.6.1h6.1i9.1.6.1h6.1ia.1.6.1h8.",
    "1hh.1.6.1h8.1hi.1.6.1h8.1i5.1.6.1h8.1i6.1.6.1h8.1i9.1.6.1h8.1ia.1.6.1ha.1hh.1.6.1ha.1hi.1.6.1h",
    "a.1i5.1.6.1ha.1i6.1.6.1ha.1i9.1.6.1ha.1ia.1.6.1hb.1hh.1.6.1hb.1hi.1.6.1hb.1i5.1.6.1hb.1i6.1.6.",
    "1hb.1i9.1.6.1hb.1ia.1.6.1i1.1i9.1.6.1i1.1ia.1.6.1i2.1i9.1.6.1i2.1ia.1.6.1i3.1h7.1.6.1i3.1i4.1.",
    "6.1i3.1i5.1.6.1i3.1i9.1.6.1i3.1ia.1.6.1i4.1i5.1.6.1i4.1i9.1.6.1i4.1ia.1.6.1i5.1h7.1.6.1i5.1i5.",
    "1.6.1i6.1hh.1.6.1i6.1hi.1.6.1i6.1i5.1.6.1i6.1i6.1.6.1i6.1i9.1.6.1i6.1ia.1.6.1i9.1jg.1.6.1ia.1h",
    "h.1.6.1ia.1hi.1.6.1ia.1i5.1.6.1ia.1i6.1.6.1ia.1i9.1.6.1ia.1ia.1.6.1h6.1hc.1.6.1h6.1hd.1.6.1h6.",
    "1he.1.6.1h6.1i5.1.6.1h6.1i7.1.6.1h8.1hc.1.6.1h8.1hd.1.6.1h8.1he.1.6.1h8.1i5.1.6.1h8.1i7.1.6.1h",
    "a.1hc.1.6.1ha.1hd.1.6.1ha.1he.1.6.1ha.1i5.1.6.1ha.1i7.1.6.1hb.1i5.1.6.1hc.1hd.1.6.1hc.1i5.1.6.",
    "1hd.1hc.1.6.1hd.1i5.1.6.1he.1hc.1.6.1he.1i5.1.6.1hj.1hc.1.6.1hj.1hd.1.6.1hj.1he.1.6.1hj.1i5.1.",
    "6.1hl.1hd.1.6.1hl.1he.1.6.1hl.1i5.1.6.1hm.1hc.1.6.1hm.1hd.1.6.1hm.1he.1.6.1hm.1i5.1.6.1hn.1hd.",
    "1.6.1ho.1i5.1.6.1hp.1hc.1.6.1hp.1i5.1.6.1hq.1hc.1.6.1hq.1i5.1.6.1i1.1hc.1.6.1i1.1hd.1.6.1i1.1h",
    "e.1.6.1i1.1i5.1.6.1i2.1hd.1.6.1i2.1i5.1.6.1i3.1hc.1.6.1i3.1hd.1.6.1i3.1he.1.6.1i3.1i4.1.6.1i3.",
    "1i5.1.6.1i4.1hc.1.6.1i4.1hd.1.6.1i4.1he.1.6.1i4.1i5.1.6.1i4.1i7.1.6.1i5.1hc.1.6.1i5.1hd.1.6.1i",
    "5.1he.1.6.1i5.1i5.1.6.1i6.1hc.1.6.1i6.1hd.1.6.1i6.1he.1.6.1i6.1i5.1.6.1i6.1i7.1.6.1i7.1hc.1.6.",
    "1i7.1i5.1.6.1i7.1jg.1.6.1ia.1hc.1.6.1ia.1hd.1.6.1ia.1he.1.6.1ia.1i5.1.6.1ia.1i7.1.6.1h6.1i5.1.",
    "6.1h6.1i7.1.6.1h8.1i5.1.6.1h8.1i7.1.6.1ha.1i5.1.6.1ha.1i7.1.6.1hb.1i5.1.6.1hb.1i7.1.6.1hj.1i5.",
    "1.6.1hj.1i7.1.6.1hk.1i5.1.6.1hk.1i7.1.6.1i3.1i4.1.6.1i3.1i5.1.6.1i4.1i5.1.6.1i6.1i5.1.6.1i6.1i",
    "7.1.6.1ia.1i5.1.6.1ia.1i7.1.7.1i0.1ie.1ih.1.7.1i0.1if.1ih.1.7.1i0.1ig.1ih.1.6.1hn.1i9.1.6.1hn.",
    "1ia.1.6.1hp.1i9.1.6.1hp.1ia.1.6.1hq.1i9.1.6.1hq.1ia.1.6.1hj.1i9.1.6.1hj.1ia.1.6.1hk.1i9.1.6.1h",
    "k.1ia.1.6.1hd.1i9.1.6.1hd.1ia.1.6.1hc.1i9.1.6.1hc.1ia.1.6.1he.1i9.1.6.1he.1ia.1.6.1hl.1i9.1.6.",
    "1hl.1ia.1.6.1hm.1i9.1.6.1hm.1ia.1.6.1hk.1hc.1.6.1hk.1hd.1.6.1hk.1he.1.6.1hk.1i5.1.6.1hk.1hh.1.",
    "6.1hj.1hh.1.6.1hl.1hh.1.6.1hm.1hh.1.6.1hn.1i9.1.6.1hn.1ia.1.6.1hp.1i9.1.6.1hp.1ia.1.6.1hq.1i9.",
    "1.6.1hq.1ia.1.6.1hj.1i9.1.6.1hj.1ia.1.6.1hk.1i9.1.6.1hk.1ia.1.6.1hd.1i9.1.6.1hd.1ia.1.6.1hc.1i",
    "9.1.6.1hc.1ia.1.6.1he.1i9.1.6.1he.1ia.1.6.1hl.1i9.1.6.1hl.1ia.1.6.1hm.1i9.1.6.1hm.1ia.1.6.1hk.",
    "1hc.1.6.1hk.1hd.1.6.1hk.1he.1.6.1hk.1i5.1.6.1hk.1hh.1.6.1hj.1hh.1.6.1hl.1hh.1.6.1hm.1hh.1.6.1h",
    "k.1hc.1.6.1hk.1hd.1.6.1hk.1he.1.6.1hk.1i5.1.6.1hj.1i7.1.6.1hk.1i7.1.6.1hn.1i5.1.6.1hj.1hc.1.6.",
    "1hj.1hd.1.6.1hj.1he.1.6.1hk.1hc.1.6.1hk.1hd.1.6.1hk.1he.1.6.1hn.1i5.1.6.1ho.1i5.1.6.1h7.1ib.1.",
    "6.1h7.1ib.i.0.1.7.1ha.1hc.1i5.1.7.1ha.1hd.1hc.1.7.1ha.1hd.1hc.1.7.1ha.1hd.1i5.1.7.1ha.1he.1i5.",
    "1.7.1ha.1i5.1hc.1.7.1ha.1i5.1hd.1.7.1ha.1i5.1he.1.7.1hc.1i5.1hd.1.7.1hc.1i5.1hd.1.7.1hd.1i5.1i",
    "a.1.7.1hd.1i5.1i9.1.7.1hj.1hd.1hc.1.7.1hj.1hc.1hd.1.7.1hj.1hc.1i9.1.7.1hj.1i5.1hd.1.7.1hj.1i5.",
    "1hd.1.7.1hj.1i5.1hc.1.7.1hj.1i5.1i5.1.7.1hj.1i5.1i5.1.7.1hl.1hd.1hd.1.7.1hl.1hd.1hd.1.7.1hl.1i",
    "5.1i5.1.7.1hk.1hd.1i5.1.7.1hk.1hd.1i5.1.7.1hk.1hc.1ia.1.7.1hk.1i5.1he.1.7.1hk.1i5.1he.1.7.1hk.",
    "1i5.1i5.1.7.1hk.1i5.1i5.1.7.1hm.1hd.1i9.1.7.1hm.1he.1i5.1.7.1hm.1he.1i5.1.7.1hn.1i5.1hd.1.7.1h",
    "n.1i5.1hd.1.7.1hn.1i5.1i5.1.7.1hn.1i5.1ia.1.7.1hp.1hc.1i5.1.7.1hp.1i5.1i5.1.7.1hp.1i5.1i5.1.7.",
    "1hp.1i5.1i9.1.7.1hq.1i5.1i5.1.7.1hq.1i5.1ia.1.7.1hq.1i5.1i9.1.7.1i1.1he.1i5.1.7.1i1.1he.1i5.1.",
    "7.1i2.1i5.1hd.1.7.1i2.1i5.1i5.1.7.1i4.1hd.1i5.1.7.1i4.1hd.1ia.1.7.1i4.1hd.1i9.1.7.1i4.1hc.1hc.",
    "1.7.1i4.1hc.1hc.1.7.1i4.1he.1i5.1.7.1i4.1he.1i5.1.7.1i4.1i5.1hd.1.7.1i4.1i5.1hd.1.7.1i5.1hd.1h",
    "c.1.7.1i5.1hd.1i5.1.7.1i5.1hd.1ia.1.7.1i5.1hc.1hd.1.7.1i5.1hc.1i5.1.7.1i5.1he.1hc.1.7.1i5.1he.",
    "1i5.2.0.1.7.1i5.1hc.1he.1.7.1i7.1i5.1hc.1.7.1i7.1i5.1i5.1.7.1i6.1hd.1i5.1.7.1i6.1hd.1i9.1.7.1i",
    "6.1hc.1i5.1.7.1i6.1hc.1i5.1.7.1i6.1hc.1i9.1.7.1i6.1i5.1ia.1.7.1i6.1i5.1i9.1.7.1ia.1i5.1i5.1.7.",
    "1ia.1i5.1i5.1.7.1h8.1he.1ia.1.7.1ha.1hc.1ia.1.7.1ha.1hc.1i9.1.7.1ha.1he.1ia.1.7.1ha.1he.1i9.1.",
    "7.1ha.1i5.1ia.1.7.1ha.1i5.1i9.1.7.1hc.1i5.1ia.1.7.1hc.1hd.1i9.1.7.1hc.1i5.1i9.1.7.1hj.1he.1i9.",
    "1.7.1hl.1hd.1ia.1.7.1hk.1hd.1ia.1.7.1hm.1hd.1ia.1.7.1i4.1hc.1ia.1.7.1i4.1i5.1ia.1.7.1ia.1hd.1i",
    "a.1.7.1ia.1hc.1ia.1.7.1ia.1i5.1ia.1.7.1i5.1i5.1ia.1.7.1i2.1i5.1ia.1.7.1i6.1hd.1ia.1.7.1i2.1i5.",
    "1hd.1.7.1i4.1hd.1i5.1.7.1hp.1i5.1ia.1.7.1i3.1i5.1ia.1.7.1i6.1hc.1hd.1.7.1i5.1he.1ia.1.7.1i4.1h",
    "c.1i5.1.7.1i3.1i5.1i5.1.7.1i4.1hc.1i5.1.7.1i6.1hc.1hd.1.7.1hc.1hd.1ia.1.7.1hd.1hc.1ia.1.7.1i5.",
    "1hc.1ia.1.7.1i1.1i5.1ia.1.7.1h8.1hd.1ia.1.7.1i3.1i5.1i5.1.7.1hp.1hc.1i5.1.7.1hl.1i5.1i5.1.7.1h",
    "j.1he.1ia.1.7.1i6.1hc.1ia.8.0.10.2.1.7.1hl.1i4.1mi.1.7.1i2.1i4.1mi.1.8.1h7.1i4.1i4.1i7.1.8.1h7",
    ".1i3.1h8.1hh.1.8.1i5.1hd.1i5.1hf.1.8.1hl.1i4.1hp.1i5.1.8.1hh.1hj.1i8.1i4.1.8.1hp.1i4.1ia.1i7.1",
    ".8.1i8.1hj.1i4.1i5.1.7.1hl.1i4.1i9.1.m.1hl.1i4.1i9.10.1h7.1i4.1i4.1i7.10.1hp.1i4.1ia.1i7.10.1i",
    "8.1hj.1i4.1i5.1.c.1hc.1i4.10.1hc.1i4.1h7.1i4.1i7.1.8.1hh.1mc.1h7.1i4.3.0.g.1.1.4.1c.1.4.c01.1.",
    "2.2.4.1q.1.4.11.1.4.1v.2.4.c0m.7.2.g.0.1.2.1.4.80k.1.4.80j.1.5.2v.1.5.2v.2.4.18.1.4.3r.1.4.3t.",
    "2.4.c0k.2.4.c0g.2.4.c0a.2.4.c08.4.4.c0c.2.0.1.4.2r.1.4.2t.1.6.10.o5.1.6.10.o5.1.6.10.o5.1.6.10",
    ".o5.1.5.2v.1.5.2v.1.5.2v.1.4.1c.1.4.c01.2.2.1.4.1r.1.4.1q.1.4.1v.1.4.11.1.4.80k.2.4.18.1.4.3r.",
    "1.4.3t.2.4.c0k.1.4.13.1.4.16.2.4.1a.1.4.1d.1.4.1s.1.4.1u.1.4.1t.1.2.1.4.2s.2.4.14.1.4.20.4.2.1",
    ".6.10.1ib.1.6.1i0.1ib.1.6.10.1ic.1.0.1.6.10.1id.1.2.1.6.10.1ie.1.6.1i0.1ie.1.6.10.1if.1.6.1i0.",
    "1if.1.6.10.1ig.1.6.1i0.1ig.1.6.10.1ih.1.6.1i0.1ih.1.6.10.1ii.1.6.1i0.1ii.1.4.1h1.1.5.1h2.1.5.1",
    "h2.1.5.1h3.1.5.1h3.1.5.1h4.1.5.1h4.1.5.1h5.1.5.1h5.1.5.1h6.1.5.1h6.1.5.1h6.1.5.1h6.1.5.1h7.1.5",
    ".1h7.1.5.1h8.1.5.1h8.1.5.1h8.1.5.1h8.1.5.1h9.1.5.1h9.1.5.1ha.1.5.1ha.1.5.1ha.1.5.1ha.1.5.1hb.1",
    ".5.1hb.1.5.1hb.1.5.1hb.1.5.1hc.1.5.1hc.1.5.1hc.1.5.1hc.1.5.1hd.1.5.1hd.1.5.1hd.1.5.1hd.1.5.1he",
    ".1.5.1he.1.5.1he.1.5.1he.1.5.1hf.1.5.1hf.1.5.1hg.1.5.1hg.1.5.1hh.1.5.1hh.1.5.1hi.1.5.1hi.1.5.1",
    "hj.1.5.1hj.1.5.1hj.1.5.1hj.1.5.1hk.1.5.1hk.1.5.1hk.1.5.1hk.1.5.1hl.1.5.1hl.1.5.1hl.1.5.1hl.1.5",
    ".1hm.1.5.1hm.1.5.1hm.1.5.1hm.1.5.1hn.1.5.1hn.1.5.1hn.1.5.1hn.1.5.1ho.1.5.1ho.1.5.1ho.1.5.1ho.1",
    ".5.1hp.1.5.1hp.1.5.1hp.1.5.1hp.1.5.1hq.1.5.1hq.1.5.1hq.1.5.1hq.1.5.1i1.1.5.1i1.1.5.1i1.1.5.1i1",
    ".1.5.1i2.1.5.1i2.1.5.1i2.1.5.1i2.1.5.1i3.1.5.1i3.1.5.1i3.1.5.1i3.1.5.1i4.1.5.1i4.1.5.1i4.1.5.1",
    "i4.1.5.1i5.1.5.1i5.1.5.1i5.1.5.1i5.1.5.1i6.1.5.1i6.1.5.1i6.1.5.1i6.1.5.1i7.1.5.1i7.1.5.1i7.1.5",
    ".1i7.1.5.1i8.1.5.1i8.1.5.1i9.1.5.1i9.1.5.1ia.1.5.1ia.1.5.1ia.1.5.1ia.1.6.1i4.1h2.1.6.1i4.1h2.1",
    ".6.1i4.1h3.1.6.1i4.1h3.1.6.1i4.1h5.1.6.1i4.1h5.1.6.1i4.1h7.1.6.1i4.1h7.2.2.1.1.1.2.10.4.11.q.4",
    ".31.14.4.2r.2.4.ac5.1.4.1e.2.4.c0c.1.4.c01.1.4.c7r.1.4.c7i.1.4.c51.1.4.c53.1.4.c55.1.4.c57.1.4",
    ".c59.1.4.c73.1.4.c75.1.4.c77.1.4.c63.1.4.c7s.1.4.c52.1.4.c54.1.4.c56.1.4.c58.2.4.c5a.1.4.c5d.1",
    ".4.c5f.1.4.c5h.1.4.c5j.1.4.c5l.1.4.c5n.1.4.c5p.1.4.c5r.1.4.c5t.1.4.c5v.1.4.c61.1.4.c64.1.4.c66",
    ".1.4.c68.6.4.c6a.1.4.c6i.1.4.c6l.1.4.c6o.1.4.c6r.5.4.c6u.1.4.c74.1.4.c76.6.4.c78.1.4.c7f.1.4.c",
    "7j.2.4.c4p.1.1.2.4.480.1.4.4da.1.4.482.2.4.4dc.3.4.483.6.4.4dg.1.4.48q.3.4.486.1.4.491.a.4.489",
    ".3.2.6.4.4b1.2.2.6.4.4b7.2.2.6.4.4bd.2.2.3.4.4bj.3.2.2.4.52.1.4.5c.1.6.10.o4.1.4.56.1.4.55.1.4",
    ".859.1.2.1.4.982.4.4.8cg.1.4.9d0.1.4.9eb.h.2.c.0.1.2.q.0.1.2.j.0.1.2.2.0.1.2.f.0.2.2.e.0.12.2.",
    "3r.0.5.2.3.0.4.2.1d.0.3.2.2o.0.1.2.d.0.3.2.1.0.1f.2.1e.0.42.2.t.0.3.2.1h.0.f.2.s.0.4.2.14.0.9.",
    "2.u.0.5.2.1b.0.5.2.u.0.1.2.15.0.4.2.e.0.1a.2.18.4.2118.3m.0.2.2.a.0.6.2.14.4.216o.4.2.14.0.4.2",
    ".18.0.8.2.1k.0.b.2.1.0.b.4.21cn.1.2.f.4.21d3.1.2.7.4.21dj.1.2.2.4.21dr.1.2.b.0.1.2.f.0.1.2.7.0",
    ".1.2.2.0.3.2.1k.0.c.2.9n.0.9.2.m.0.a.2.8.0.o.2.1.0.2.4.mg.1.4.76.1.4.kp.1.4.ij.1.2.1.4.l3.1.4.",
    "1ar6.1.4.l5.1.4.l4.2.4.im.1.4.7ch.1.4.io.1.4.iu.1.4.l9.1.4.j4.1.4.j2.1.4.j0.1.4.kr.1.4.97.1.4.",
    "ks.1.4.j7.1.4.k4.2.4.la.1.4.jc.1.4.3no4.1.4.19se.1.4.je.1.4.3no5.1.4.ke.1.4.3no6.1.4.7o.2.4.jm",
    ".1.4.3h.1.4.jq.1.4.3no8.2.4.jt.1.4.k0.1.4.l8.1.4.l6.1.4.1ar7.1.4.l7.1.4.k8.1.4.b3h.1.2.1.4.kf.",
    "2.4.l1.1.4.ko.3.4.e0.1.4.3noa.1.4.3nou.25.2.6.0.2.2.1.0.1.2.1c.0.1.2.2.0.3.2.1.0.2.2.n.0.1.2.2",
    "8.0.8.2.9.0.1g.2.j.0.1.2.2.0.5.2.11.0.3.2.r.0.5.2.r.0.16.2.1o.0.4.2.k.0.2.2.1i.0.1.2.2.0.5.2.8",
    ".0.1.2.3.0.1.2.t.0.2.2.3.0.4.2.a.0.7.2.9.0.7.2.20.0.10.2.17.0.4.2.c.0.9.2.1m.0.3.2.t.0.2.2.r.0",
    ".5.2.q.0.7.2.4.0.c.2.7.0.2g.2.29.0.1n.2.1j.4.2360.d.2.1j.0.7.2.1e.0.8.2.a.0.6.2.g.0.m.4.23bg.3",
    ".2.t.0.8.2.2.0.6g.2.v.0.1.2.1a.0.1.2.3.0.2.2.2.0.g.2.6.0.8.2.9.0.11.2.1e.0.8.2.1a.0.m.2.q.0.16",
    ".2.s.0.k.2.n.0.9.2.2e.0.4.2.14.0.9.2.1u.0.1.2.5.0.d.2.p.0.7.2.a.0.6.2.1l.0.1.2.i.0.8.2.17.0.9.",
    "2.30.0.1.2.k.0.b.2.i.0.1.2.1f.0.1u.2.7.0.1.2.1.0.1.2.4.0.1.2.f.0.1.2.b.0.6.2.1r.0.5.2.a.0.6.2.",
    "4.0.1.2.8.0.2.2.2.0.2.2.m.0.1.2.7.0.1.2.2.0.1.2.5.0.1.2.a.0.2.2.2.0.2.2.3.0.2.2.1.0.6.2.1.0.5.",
    "2.7.0.2.2.7.0.3.2.5.0.b.2.a.0.1.2.1.0.2.2.1.0.1.2.16.0.1.2.a.0.1.2.1.0.2.2.1.0.1.2.4.0.1.2.a.0",
    ".1.2.2.0.8.2.2.0.t.2.2s.0.1.2.5.0.u.2.28.0.8.2.a.0.56.2.1m.0.2.2.16.0.12.2.25.0.b.2.a.0.6.2.d.",
    "0.j.2.1q.0.6.2.a.0.6.2.k.0.s.2.r.0.2.2.f.0.4.2.n.0.5p.2.1s.0.34.2.10.4.2660.1j.0.c.2.8.0.2.2.1",
    ".0.2.2.8.0.1.2.2.0.1.2.u.0.1.2.2.0.2.2.c.0.9.2.a.0.26.2.8.0.2.2.1e.0.2.2.b.0.r.2.28.0.8.2.2j.0",
    ".d.2.29.0.7.2.a.0.2m.2.8.0.2o.2.12.0.e.2.a.0.6.2.9.0.1.2.1d.0.1.2.e.0.a.2.t.0.3.2.10.0.2.2.m.0",
    ".1.2.e.0.29.2.7.0.1.2.2.0.1.2.1c.0.3.2.1.0.1.2.2.0.1.2.9.0.8.2.a.0.6.2.6.0.1.2.2.0.1.2.15.0.1.",
    "2.2.0.1.2.6.0.7.2.a.0.6.2.1c.0.4.2.a.0.7m.2.p.0.7.2.h.0.1.2.19.0.3.2.t.0.2l.2.1.0.f.2.1i.0.d.2",
    ".sr.0.36.2.3f.0.1.2.5.0.b.2.64.0.2ic.2.33.0.d.2.11g.0.g.2.m.0.a.2.3sr.0.5.2.i7.0.6lp.2.1q.0.1m",
    "6.2.hp.0.7.2.v.0.1.2.a.0.4.2.2h.0.1.2.a.0.6.2.u.0.2.2.6.0.a.2.26.0.a.2.a.0.1.2.7.0.1.2.l.0.5.2",
    ".j.0.dg.2.1q.0.66.2.10.4.2rj0.1r.0.5.2.p.4.2rlr.2.2.p.0.1c.2.2b.0.4.2.1p.0.7.2.h.0.20.2.5.0.b.",
    "2.7.0.9.2.76m.0.19.2.10.0.31.2.3j.0.8ft.2.4.0.1.2.7.0.1.2.2.0.1.2.93.0.f.2.1.0.t.2.3.0.2.2.1.0",
    ".e.2.4.0.8.2.cc.0.284.2.3b.0.5.2.d.0.3.2.9.0.7.2.a.0.2.2.4.0.4.1.3qs.2.6m.0.q.4.31.a.4.1g.3.0.",
    "3.2.dk.0.6.2.n.0.f.2.h.0.f.2.1e.0.2.2.n.0.9.2.3k.0.1s.2.7m.0.a.2.17.0.2.2.1l.0.1.6.3kan.3kb5.1",
    ".6.3kao.3kb5.1.7.3kao.3kb5.3kbe.1.7.3kao.3kb5.3kbf.1.7.3kao.3kb5.3kbg.1.7.3kao.3kb5.3kbh.1.7.3",
    "kao.3kb5.3kbi.e.0.8.1.20.0.1.6.3kdp.3kb5.1.6.3kdq.3kb5.1.7.3kdp.3kb5.3kbe.1.7.3kdq.3kb5.3kbe.1",
    ".7.3kdp.3kb5.3kbf.1.7.3kdq.3kb5.3kbf.1a.0.l.2.26.0.3q.2.k.0.c.2.k.0.c.2.2n.0.9.2.p.0.47.2.q.4.",
    "31.q.4.31.q.4.31.7.4.31.1.2.i.4.39.q.4.31.q.4.31.1.4.31.1.2.2.4.33.2.2.1.4.37.2.2.2.4.3a.2.2.4",
    ".4.3e.1.2.8.4.3j.4.4.31.1.2.1.4.36.1.2.7.4.38.1.2.b.4.3g.q.4.31.q.4.31.2.4.31.1.2.4.4.34.2.2.8",
    ".4.3a.1.2.7.4.3j.1.2.q.4.31.2.4.31.1.2.4.4.34.1.2.5.4.39.1.2.1.4.3f.3.2.7.4.3j.1.2.q.4.31.q.4.",
    "31.q.4.31.q.4.31.q.4.31.q.4.31.q.4.31.q.4.31.q.4.31.q.4.31.q.4.31.q.4.31.q.4.31.1.4.9h.1.4.hn.",
    "2.2.h.4.th.1.4.to.7.4.u3.1.4.8g7.h.4.th.1.5.u3.1.5.u3.6.4.u4.1.4.8g2.1.4.tl.1.4.to.1.4.tq.1.4.",
    "u6.1.4.u1.1.4.u0.h.4.th.1.4.to.7.4.u3.1.4.8g7.h.4.th.1.5.u3.1.5.u3.6.4.u4.1.4.8g2.1.4.tl.1.4.t",
    "o.1.4.tq.1.4.u6.1.4.u1.1.4.u0.h.4.th.1.4.to.7.4.u3.1.4.8g7.h.4.th.1.5.u3.1.5.u3.6.4.u4.1.4.8g2",
    ".1.4.tl.1.4.to.1.4.tq.1.4.u6.1.4.u1.1.4.u0.h.4.th.1.4.to.7.4.u3.1.4.8g7.h.4.th.1.5.u3.1.5.u3.6",
    ".4.u4.1.4.8g2.1.4.tl.1.4.to.1.4.tq.1.4.u6.1.4.u1.1.4.u0.h.4.th.1.4.to.7.4.u3.1.4.8g7.h.4.th.1.",
    "5.u3.1.5.u3.6.4.u4.1.4.8g2.1.4.tl.1.4.to.1.4.tq.1.4.u6.1.4.u1.1.4.u0.1.5.ut.1.5.ut.2.2.a.4.1g.",
    "a.4.1g.a.4.1g.a.4.1g.a.4.1g.kc.0.f.2.5.0.1.2.f.0.12g.2.v.0.6.2.6.0.6l.2.7.0.1.2.h.0.2.2.7.0.1.",
    "2.2.0.1.2.5.0.5.2.9.4.11g.3.4.11q.b.4.11u.1.4.12b.2.4.12d.1.4.19k9.1.4.16p.1.4.12m.1.4.12o.1.4",
    ".179.1.4.15f.1.4.16f.9.4.11g.2.4.11q.2.4.11u.1.4.121.6.4.123.2.4.12a.1.4.14h.1.4.12m.1.4.12l.1",
    ".4.12v.1.4.15b.1.4.19ih.1.4.15h.11.2.1.0.3g.2.1d.0.3.2.e.0.2.2.a.0.4.2.2.0.a0.2.v.0.h.2.1q.0.5",
    ".2.1.0.eg.2.1a.0.6m.2.1b.0.4.2.1.0.60.2.v.0.1.2.m.0.8.2.2.0.70.2.7.0.1.2.4.0.1.2.2.0.1.2.f.0.1",
    ".2.65.0.2.2.g.0.19.2.12.4.3q92.1a.0.4.2.a.0.4.2.2.0.oh.2.24.0.2c.2.1t.0.62.2.2.4.1h7.1.4.1hc.1",
    ".4.1hf.1.2.1.4.1i8.1.4.1hi.1.4.1hd.1.4.1hn.1.4.1ia.4.4.1i3.1.4.1hj.1.4.1hp.1.4.1i1.1.4.1hl.1.4",
    ".1i2.1.4.1hh.1.4.1hk.2.4.1ha.1.4.1he.1.4.1hg.1.4.1hm.1.4.1ho.1.4.1hq.1.4.1je.1.4.1lq.1.4.1l1.1",
    ".4.1jf.1.2.1.4.1h8.1.4.1hc.1.2.1.4.1i7.2.2.1.4.1hd.1.2.1.4.1ia.4.4.1i3.1.4.1hj.1.4.1hp.1.4.1i1",
    ".1.4.1hl.1.4.1i2.1.2.1.4.1hk.2.4.1ha.1.4.1he.1.2.1.4.1hm.1.2.1.4.1hq.6.2.1.4.1hc.4.2.1.4.1hd.1",
    ".2.1.4.1ia.1.2.1.4.1i4.1.2.1.4.1i6.1.4.1hj.1.4.1hp.1.2.1.4.1hl.1.4.1i2.1.2.1.4.1hk.2.2.1.4.1he",
    ".1.2.1.4.1hm.1.2.1.4.1hq.1.2.1.4.1lq.1.2.1.4.1jf.1.2.1.4.1h8.1.4.1hc.1.2.1.4.1i7.2.2.1.4.1hd.1",
    ".4.1hn.1.4.1ia.1.4.1i3.1.2.2.4.1i5.1.4.1hj.1.4.1hp.1.4.1i1.1.4.1hl.1.4.1i2.1.2.1.4.1hk.2.4.1ha",
    ".1.4.1he.1.2.1.4.1hm.1.4.1ho.1.4.1hq.1.4.1je.1.2.1.4.1l1.1.2.2.4.1h7.1.4.1hc.1.4.1hf.2.4.1i7.1",
    ".4.1hi.1.4.1hd.1.4.1hn.1.4.1ia.1.2.3.4.1i4.1.4.1hj.1.4.1hp.1.4.1i1.1.4.1hl.1.4.1i2.1.4.1hh.1.4",
    ".1hk.2.4.1ha.1.4.1he.1.4.1hg.1.4.1hm.1.4.1ho.1.4.1hq.5.2.1.4.1h8.1.4.1hc.1.4.1hf.1.2.1.4.1i8.1",
    ".4.1hi.1.4.1hd.1.4.1hn.1.4.1ia.1.2.3.4.1i4.1.4.1hj.1.4.1hp.1.4.1i1.1.4.1hl.1.4.1i2.1.4.1hh.1.4",
    ".1hk.2.4.1ha.1.4.1he.1.4.1hg.1.4.1hm.1.4.1ho.1.4.1hq.1k.2.2.0.8e.2.1c.0.4.2.34.0.c.2.f.0.2.2.f",
    ".0.1.2.f.0.1.2.15.0.b.2.1.6.1g.1c.1.6.1h.1c.1.6.1i.1c.1.6.1j.1c.1.6.1k.1c.1.6.1l.1c.1.6.1m.1c.",
    "1.6.1n.1c.1.6.1o.1c.1.6.1p.1c.5.0.1.7.18.31.19.1.7.18.32.19.1.7.18.33.19.1.7.18.34.19.1.7.18.3",
    "5.19.1.7.18.36.19.1.7.18.37.19.1.7.18.38.19.1.7.18.39.19.1.7.18.3a.19.1.7.18.3b.19.1.7.18.3c.1",
    "9.1.7.18.3d.19.1.7.18.3e.19.1.7.18.3f.19.1.7.18.3g.19.1.7.18.3h.19.1.7.18.3i.19.1.7.18.3j.19.1",
    ".7.18.3k.19.1.7.18.3l.19.1.7.18.3m.19.1.7.18.3n.19.1.7.18.3o.19.1.7.18.3p.19.1.7.18.3q.19.1.7.",
    "c0k.3j.c0l.1.4.33.1.4.3i.1.6.33.34.1.6.3n.3q.1.0.q.4.31.1.6.38.3m.1.6.3d.3m.1.6.3j.34.1.6.3j.3",
    "j.1.7.3g.3g.3m.1.6.3n.33.q.0.1.6.3d.33.1.6.3d.34.1.6.3d.3i.13.0.1.6.34.3a.t.0.1o.2.q.0.1.6.c3r",
    ".c2b.1.6.c5j.c5j.1.4.c5l.d.2.1.4.oib.1.4.mqn.1.4.kuc.1.4.c67.1.4.jkc.1.4.m8q.1.4.12f3.1.4.m99.",
    "1.4.jl4.1.4.ph0.1.4.s91.1.4.pcp.1.4.kid.1.4.nsc.1.4.kcd.1.4.pdg.1.4.kgt.1.4.va2.1.4.t8v.1.4.13",
    "59.1.4.m7g.1.4.l1p.1.4.rok.1.4.okl.1.4.oql.1.4.jg0.1.4.jg9.1.4.142a.1.4.nf6.1.4.jhd.1.4.kvj.1.",
    "4.oo7.1.4.13bg.1.4.oij.1.4.uc1.1.4.ujq.1.4.l08.1.4.rk0.1.4.po9.1.4.po8.1.4.t9j.1.4.kji.1.4.ldm",
    ".1.4.14ad.4.2.1.7.c0k.ppc.c0l.1.7.c0k.jg9.c0l.1.7.c0k.jkc.c0l.1.7.c0k.ms9.c0l.1.7.c0k.s5p.c0l.",
    "1.7.c0k.oij.c0l.1.7.c0k.tmn.c0l.1.7.c0k.kmt.c0l.1.7.c0k.pan.c0l.7.2.1.4.nsn.1.4.kvf.e.2.6.0.4q",
    ".2.up.0.3.2.h.0.3.2.d.0.3.2.6q.0.6.2.c.0.4.2.1.0.f.2.c.0.4.2.1o.0.8.2.a.0.6.2.18.0.8.2.u.0.2.2",
    ".c.0.4.2.2.0.e.2.9.0.17.2.ao.0.8.2.e.0.2.2.d.0.3.2.b.0.3.2.1p.0.1.2.1.0.4.2.g.0.2.2.c.0.4.2.a.",
    "0.7.2.4j.0.1.2.2s.0.a.4.1g.1.0.105.2.19n0.0.10.2.48u.0.2.2.5ke.0.2.2.79h.0.f.2.je.0.2d2.2.1.4.",
    "jht.1.4.jho.1.4.ji1.1.4.4092.1.4.jr0.1.4.jte.1.4.jtr.1.4.k02.1.4.k3q.1.4.k4p.1.4.k77.1.4.k6f.1",
    ".4.d4u.1.4.41hq.1.4.kad.1.4.kak.1.4.kb4.1.4.kbn.1.4.418s.1.4.d5p.1.4.kb7.1.4.kcd.1.4.41ab.1.4.",
    "kcn.1.4.kd4.1.4.jmc.1.4.kdc.1.4.kdl.1.4.54ev.1.4.kfl.1.4.kg3.1.4.d6v.1.4.khr.1.4.ki6.1.4.kji.1",
    ".4.kjn.1.4.d8l.1.4.km7.1.4.km9.1.4.kn4.1.4.knq.2.4.ko5.1.4.kon.1.4.kq9.1.4.kqh.1.4.kqq.1.4.krj",
    ".1.4.krt.1.5.krv.1.5.krv.1.5.krv.1.4.42hc.1.4.s3g.1.4.kua.1.4.kuv.1.4.42r3.1.4.kvb.1.4.kvh.1.4",
    ".l06.1.4.l4u.1.4.l1o.1.4.l28.1.4.l38.1.4.l52.1.4.l7m.1.4.l8g.1.4.laj.1.4.lb3.1.5.lc4.1.5.lc4.1",
    ".4.lcp.1.4.ldb.1.4.ldj.1.4.le2.1.4.lom.1.4.lg6.1.4.lon.1.4.lih.1.4.ljk.1.4.kg7.1.4.m7e.1.4.lue",
    ".1.4.lvk.1.4.m0d.1.4.lsb.1.4.m1i.1.4.m1h.1.4.m5c.1.4.4574.1.4.m7i.1.4.m7n.1.4.m86.1.4.m8q.1.4.",
    "m92.1.4.mb2.1.4.45l8.1.4.45na.1.4.mfc.1.4.mgr.1.4.mh7.1.4.meo.1.4.mj6.1.4.dne.1.4.dns.1.4.mo8.",
    "1.5.mpu.1.5.mpu.1.4.46e8.1.4.mu3.1.4.muo.1.4.mv7.1.4.mvj.1.4.46oo.1.4.mvv.1.4.n06.1.4.nqj.1.4.",
    "n12.1.4.ds1.1.4.n30.1.4.n3e.1.4.n60.1.4.n4d.1.4.47f4.1.4.na3.1.4.47f6.1.4.nbe.1.4.nbb.1.4.nbs.",
    "2.4.nf1.1.4.e1f.1.4.nft.1.4.nh8.1.4.nht.1.4.nj9.1.4.e32.1.4.48c3.1.4.e3s.1.4.nlg.1.4.nlj.1.4.n",
    "lm.1.4.nma.1.4.58si.1.4.nnu.1.5.48ph.1.5.48ph.1.4.10g1.1.5.np2.1.5.np2.1.4.e67.1.4.4clo.1.4.4o",
    "eq.1.4.nr2.1.4.nrb.1.4.e73.1.4.nsq.1.4.nud.1.4.nun.1.4.nvp.1.4.o41.1.4.e9q.1.4.e8s.1.4.o4k.1.4",
    ".49mk.1.4.o67.1.4.oa8.1.4.oac.1.4.oae.1.4.oac.1.4.obq.1.4.oce.1.4.odi.1.4.od4.1.4.odf.1.4.oeu.",
    "1.4.ofi.1.4.ofm.1.4.ogg.1.4.ogr.1.4.oit.1.4.olh.1.4.omk.1.4.oqg.1.4.4aoc.1.4.opt.1.4.ons.1.4.o",
    "r8.1.4.os3.1.4.ov4.1.4.4avh.1.4.p12.1.4.ou5.1.4.ot9.1.4.ehe.1.4.p39.1.4.p3u.1.4.p4t.1.4.p3n.1.",
    "4.ejc.1.4.paf.1.4.pbc.1.4.4c0a.1.4.pf3.1.4.pno.1.4.pi9.1.4.eop.1.4.pkh.1.4.eo8.1.4.en4.1.4.kci",
    ".1.4.kcl.1.4.po0.1.4.pks.1.4.105d.1.4.gup.1.4.pon.1.4.por.1.4.pp1.1.4.pqu.1.4.pqj.1.4.4cu3.1.4",
    ".eq9.1.4.pvq.1.4.ps5.1.4.q2i.1.4.q45.1.4.4d3d.1.4.q4e.1.4.q0v.1.4.q8k.1.4.est.1.4.qa2.1.4.qd3.",
    "1.4.qfa.1.4.ql8.1.4.4dl3.1.4.qmr.1.4.f0o.1.4.qp1.1.4.4e57.1.4.qqk.1.4.f2e.1.4.qri.1.4.qsv.2.4.",
    "qtq.1.4.4ekd.1.4.478b.1.4.4enq.1.4.r2e.1.4.4f5s.1.4.r5v.1.4.r6d.1.4.r37.1.4.r8m.1.4.r9u.1.4.rb",
    "n.1.4.ra1.1.4.rb9.1.4.rbo.1.4.rc5.1.4.4f8u.1.4.r9k.1.4.rhf.1.4.rje.1.4.f9j.1.4.rmb.1.4.rm7.1.4",
    ".4fmh.1.4.rfp.1.4.rre.1.4.4fqu.1.4.4fse.1.4.ru6.1.4.s1p.1.4.s0u.1.4.s0r.1.4.fcm.1.4.s2a.1.4.s3",
    "t.1.4.s3n.1.4.s5d.1.4.4195.1.4.sa5.1.4.4gj3.1.4.scs.1.4.4gtb.1.4.sh8.1.4.shl.1.4.sig.1.4.4hg8.",
    "1.4.sk0.1.4.skl.1.4.4hpl.1.4.4i0k.1.4.srq.1.4.ssb.1.4.flc.1.4.st5.1.5.flo.1.5.flo.1.4.t27.1.4.",
    "t2s.1.4.t3h.1.4.t45.1.4.t6a.1.4.for.1.4.t94.1.4.4j1m.1.4.t9u.1.4.4j4i.1.4.tbg.1.4.48cv.1.4.tgg",
    ".1.4.4jt1.1.4.4jto.1.4.4k24.1.4.fvs.1.4.g08.1.4.tnk.1.4.4k7j.1.4.4k7i.1.4.4k8p.1.4.4k9j.1.4.to",
    "u.1.5.tov.1.5.tov.1.4.tqa.1.4.g1p.1.4.tsb.1.4.g26.1.4.g4m.1.4.4l0t.1.4.u2e.1.4.u4c.1.4.u6c.1.4",
    ".g73.1.4.4lh6.1.4.uam.1.4.4lkq.1.4.4lm5.1.4.ucf.1.4.ufb.1.4.g9f.1.4.ui0.1.4.uia.1.4.uif.1.4.4m",
    "bs.1.5.4ml7.1.5.4ml7.1.4.une.1.4.gg2.1.4.4mtb.1.4.uu6.1.4.uu9.1.4.gh7.1.4.4n40.1.4.v6i.1.4.gl0",
    ".1.4.v78.1.4.v73.1.4.v80.1.4.4ns6.1.4.vb3.1.4.go1.1.4.ve7.1.4.vg2.1.4.vi5.1.4.gpk.1.4.4oh8.1.4",
    ".4oi7.1.4.gqp.1.4.4omp.1.4.vrq.1.4.4opu.1.4.vsl.1.4.vvq.1.4.1005.1.4.4p6q.1.4.4p93.1.4.1030.1.",
    "4.4pd8.1.4.103g.1.4.4cqv.1.4.gul.1.4.105i.1.4.1083.1.4.h0b.1.4.109u.1.4.mll.1.4.4pt7.1.4.4ptl.",
    "1.4.4csj.1.4.4css.1.4.10g1.1.4.10g4.1.4.13su.1.4.h3b.1.4.10kh.1.4.10kb.1.4.10kt.1.4.klj.1.4.10",
    "lh.1.4.10lj.1.4.10lt.1.4.10n6.1.4.4qps.1.4.10n5.1.4.10ot.1.4.10r3.1.4.10td.1.4.10p3.1.4.10tt.1",
    ".4.10v7.1.4.112n.1.4.10qj.1.4.10ua.1.4.10uc.1.4.10us.1.4.4r1m.1.4.4rbb.1.4.4r6l.1.4.h9b.1.4.11",
    "7h.1.4.117j.1.4.118m.1.4.4sua.1.4.11b4.1.4.4rpc.1.4.hat.1.4.hb1.1.4.4rth.1.4.4s6i.1.4.hbb.1.4.",
    "11ig.1.4.11is.1.4.11j7.1.4.11j9.1.4.11l9.1.4.11k8.1.4.11oe.1.4.11n2.1.4.11rp.1.4.11p8.1.4.11rb",
    ".1.4.11s6.1.4.hen.1.4.11v1.1.4.1201.1.4.hfp.1.4.1230.1.4.1233.1.4.4tj7.1.4.126n.1.4.126u.1.4.h",
    "hl.1.4.127q.1.4.d5r.1.4.4u5e.1.4.4ub6.1.4.hlu.1.4.hm7.1.4.12l0.1.4.12nd.1.4.12sa.1.4.132l.1.4.",
    "4v58.1.4.135b.1.4.1361.1.4.138r.1.4.13bn.1.4.4vpf.1.4.4204.1.4.13eb.1.4.13ds.1.4.13fg.1.4.426u",
    ".1.4.13mk.1.4.13po.1.4.51ei.1.4.51fd.1.4.144k.1.4.147h.1.4.148h.1.4.51pe.1.4.148r.1.4.14ho.2.4",
    ".14mn.1.4.14js.1.4.14vp.1.4.150l.1.4.52vq.1.4.15cb.1.4.icl.1.4.15dn.1.4.53bn.1.4.if6.1.4.15m3.",
    "1.4.ndi.1.4.15p3.1.4.54a5.1.4.54gq.1.4.ije.1.4.ijm.1.4.15v0.1.4.550a.1.4.ili.1.4.554m.1.5.160b",
    ".1.5.160b.1.4.1619.1.4.55dm.1.4.1672.1.4.ipj.1.4.1699.1.4.16d7.1.4.16e2.1.4.16fu.1.4.iue.1.4.5",
    "6pg.1.4.16oi.1.4.1720.1.4.177t.1.4.j6e.1.4.j7d.1.4.17b7.1.4.586e.1.4.j7o.1.4.5885.1.4.58ge.1.4",
    ".58kh.1.4.17lr.1.4.jam.1.4.17np.1.4.17nu.1.4.17o5.1.4.17of.1.4.17om.1.4.17pr.1.4.59g0.1f2.2.4q",
    "b.0.5.2.89a.0.lj46.2.7g.1.5vgg.2"]))).toArray

/-- The characters that `c` becomes as the member of a run that starts at `start`. -/
def apply (mapping : Mapping) (start : Nat) (c : Char) : Option (List Char) :=
  match mapping with
  | .keep => some [c]
  | .drop => some []
  | .refuse => none
  | .pairs => some [if (c.toNat - start) % 2 = 0 then Char.ofNat (c.toNat + 1) else c]
  | .shift target => some [Char.ofNat (target + (c.toNat - start))]
  | .replace codes => some (codes.map Char.ofNat)

/-- The characters that `c` becomes; `none` when it must not occur. -/
def map? (c : Char) : Option (List Char) :=
  match table.find? c.toNat with
  | some (start, mapping) => mapping.apply start c
  | none => none

/-- Whether a character may stand in a name as it is. -/
def isKept (c : Char) : Bool :=
  map? c = some [c]

end Mapping

end SecondFactor
