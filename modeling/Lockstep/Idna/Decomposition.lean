import Lockstep.Idna.CodeMap

/-!
# Canonical decompositions

The full canonical decomposition of each code point, the code points that compose with one other,
and the combining class of each code point (Unicode 15.1). Hangul syllables follow a rule and stand
in no table.
-/

namespace Lockstep.Idna

/-- The full canonical decomposition. -/
def decompositions : CodeMap := CodeMap.ofLines
  ["60V1:21.o0M1:21.o1M1:21.o2M1:21.o3M1:21.o8M1:21.oaM1V1:23.p7M1:25.o0M1:25.o1M1:25.o2M1:25.o8M1",
   ":29.o0M1:29.o1M1:29.o2M1:29.o8M1V1:2e.o3M1:2f.o0M1:2f.o1M1:2f.o2M1:2f.o3M1:2f.o8M2V1:2l.o0M1:2",
   "l.o1M1:2l.o2M1:2l.o8M1:2p.o1M2V1:31.o0M1:31.o1M1:31.o2M1:31.o3M1:31.o8M1:31.oaM1V1:33.p7M1:35.",
   "o0M1:35.o1M1:35.o2M1:35.o8M1:39.o0M1:39.o1M1:39.o2M1:39.o8M1V1:3e.o3M1:3f.o0M1:3f.o1M1:3f.o2M1",
   ":3f.o3M1:3f.o8M2V1:3l.o0M1:3l.o1M1:3l.o2M1:3l.o8M1:3p.o1M1V1:3p.o8M1:21.o4M1:31.o4M1:21.o6M1:3",
   "1.o6M1:21.p8M1:31.p8M1:23.o1M1:33.o1M1:23.o2M1:33.o2M1:23.o7M1:33.o7M1:23.ocM1:33.ocM1:24.ocM1",
   ":34.ocM2V1:25.o4M1:35.o4M1:25.o6M1:35.o6M1:25.o7M1:35.o7M1:25.p8M1:35.p8M1:25.ocM1:35.ocM1:27.",
   "o2M1:37.o2M1:27.o6M1:37.o6M1:27.o7M1:37.o7M1:27.p7M1:37.p7M1:28.o2M1:38.o2M2V1:29.o3M1:39.o3M1",
   ":29.o4M1:39.o4M1:29.o6M1:39.o6M1:29.p8M1:39.p8M1:29.o7M3V1:2a.o2M1:3a.o2M1:2b.p7M1:3b.p7M1V1:2",
   "c.o1M1:3c.o1M1:2c.p7M1:3c.p7M1:2c.ocM1:3c.ocM4V1:2e.o1M1:3e.o1M1:2e.p7M1:3e.p7M1:2e.ocM1:3e.oc",
   "M3V1:2f.o4M1:3f.o4M1:2f.o6M1:3f.o6M1:2f.obM1:3f.obM2V1:2i.o1M1:3i.o1M1:2i.p7M1:3i.p7M1:2i.ocM1",
   ":3i.ocM1:2j.o1M1:3j.o1M1:2j.o2M1:3j.o2M1:2j.p7M1:3j.p7M1:2j.ocM1:3j.ocM1:2k.p7M1:3k.p7M1:2k.oc",
   "M1:3k.ocM2V1:2l.o3M1:3l.o3M1:2l.o4M1:3l.o4M1:2l.o6M1:3l.o6M1:2l.oaM1:3l.oaM1:2l.obM1:3l.obM1:2",
   "l.p8M1:3l.p8M1:2n.o2M1:3n.o2M1:2p.o2M1:3p.o2M1:2p.o8M1:2q.o1M1:3q.o1M1:2q.o7M1:3q.o7M1:2q.ocM1",
   ":3q.ocM11V1:2f.orM1:3f.orMdV1:2l.orM1:3l.orMsV1:21.ocM1:31.ocM1:29.ocM1:39.ocM1:2f.ocM1:3f.ocM",
   "1:2l.ocM1:3l.ocM1:2l.o8.o4M1:3l.o8.o4M1:2l.o8.o1M1:3l.o8.o1M1:2l.o8.ocM1:3l.o8.ocM1:2l.o8.o0M1",
   ":3l.o8.o0M1V1:21.o8.o4M1:31.o8.o4M1:21.o7.o4M1:31.o7.o4M1:66.o4M1:76.o4M2V1:27.ocM1:37.ocM1:2b",
   ".ocM1:3b.ocM1:2f.p8M1:3f.p8M1:2f.p8.o4M1:3f.p8.o4M1:dn.ocM1:ki.ocM1:3a.ocM3V1:27.o1M1:37.o1M2V",
   "1:2e.o0M1:3e.o0M1:21.oa.o1M1:31.oa.o1M1:66.o1M1:76.o1M1:6o.o1M1:7o.o1M1:21.ofM1:31.ofM1:21.ohM",
   "1:31.ohM1:25.ofM1:35.ofM1:25.ohM1:35.ohM1:29.ofM1:39.ofM1:29.ohM1:39.ohM1:2f.ofM1:3f.ofM1:2f.o",
   "hM1:3f.ohM1:2i.ofM1:3i.ofM1:2i.ohM1:3i.ohM1:2l.ofM1:3l.ofM1:2l.ohM1:3l.ohM1:2j.p6M1:3j.p6M1:2k",
   ".p6M1:3k.p6M2V1:28.ocM1:38.ocM6V1:21.o7M1:31.o7M1:25.p7M1:35.p7M1:2f.o8.o4M1:3f.o8.o4M1:2f.o3.",
   "o4M1:3f.o3.o4M1:2f.o7M1:3f.o7M1:2f.o7.o4M1:3f.o7.o4M1:2p.o4M1:3p.o4M8cV1:o0M1:o1M1V1:ojM1:o8.o",
   "1M1fV1:lpM9V1:1rM6V1:58.o1M1:sh.o1M1:5nM1:sl.o1M1:sn.o1M1:sp.o1M1V1:sv.o1M1V1:t5.o1M1:t9.o1M1:",
   "tp.o8.o1MpV1:sp.o8M1:t5.o8M1:th.o1M1:tl.o1M1:tn.o1M1:tp.o1M1:u5.o8.o1MpV1:tp.o8M1:u5.o8M1:tv.o",
   "1M1:u5.o1M1:u9.o1M4V1:ui.o1M1:ui.o8M1bV1:10l.o0M1:10l.o8M1V1:10j.o1M3V1:106.o8M4V1:10q.o1M1:10",
   "o.o0M1:113.o6MaV1:10o.o6MvV1:11o.o6MmV1:11l.o0M1:11l.o8M1V1:11j.o1M3V1:12m.o8M4V1:11q.o1M1:11o",
   ".o0M1:123.o6MnV1:13k.ofM1:13l.ofM29V1:10m.o6M1:11m.o6MdV1:10g.o6M1:11g.o6M1:10g.o8M1:11g.o8M2V",
   "1:10l.o6M1:11l.o6M2V1:16o.o8M1:16p.o8M1:10m.o8M1:11m.o8M1:10n.o8M1:11n.o8M2V1:10o.o4M1:11o.o4M",
   "1:10o.o8M1:11o.o8M1:10u.o8M1:11u.o8M2V1:178.o8M1:179.o8M1:11d.o8M1:12d.o8M1:113.o4M1:123.o4M1:",
   "113.o8M1:123.o8M1:113.obM1:123.obM1:117.o8M1:127.o8M2V1:11b.o8M1:12b.o8M98V1:1h7.1ijM1:1h7.1ik",
   "M1:1i8.1ikM1:1h7.1ilM1:1ia.1ikM4pV1:1ml.1ikM1V1:1m1.1ikMgV1:1mi.1ikMilV1:298.29sM7V1:29g.29sM2",
   "V1:29j.29sM13V1:28l.29sM1:28m.29sM1:28n.29sM1:28s.29sM1:291.29sM1:292.29sM1:29b.29sM1:29f.29sM",
   "3bV1:2e7.2duM1:2e7.2enMfV1:2d1.2dsM1:2d2.2dsM1V1:2df.2dsM2jV1:2hi.2hsM2V1:2ho.2hsM12V1:2gm.2hs",
   "M1:2gn.2hsM1:2gs.2hsM2V1:2hb.2hsM79V1:2q7.2qmM2V1:2q7.2puM1:2q7.2qnMfV1:2p1.2psM1:2p2.2psM1mV1",
   ":2si.2unM1lV1:2u6.2tuM1:2u7.2tuM1:2u6.2unM3rV1:326.32mM3nV1:35v.36lM6V1:366.36lM1:366.36mM1V1:",
   "366.362M1:366.362.36lM3uV1:3a6.39uM1:3a7.39uM1:3a6.3anM4dV1:3ep.3eaM1V1:3ep.3efM1:3ep.3ef.3eaM",
   "1:3ep.3evMb4V1:3q2.3tnM9V1:3qc.3tnM4V1:3qh.3tnM4V1:3qm.3tnM4V1:3qr.3tnMcV1:3q0.3tlM9V1:3rh.3ri",
   "M1V1:3rh.3rkM1:3ti.3s0M1V1:3tj.3s0M8V1:3rh.3s0MhV1:3si.3tnM9V1:3ss.3tnM4V1:3t1.3tnM4V1:3t6.3tn",
   "M4V1:3tb.3tnMcV1:3sg.3tlM3cV1:415.41eM2mvV1:6o5.6plM1V1:6o7.6plM1V1:6o9.6plM1V1:6ob.6plM1V1:6o",
   "d.6plM3V1:6oh.6plM18V1:6pq.6plM1V1:6ps.6plM2V1:6pu.6plM1:6pv.6plM1V1:6q2.6plMlsV1:21.p5M1:31.p",
   "5M1:22.o7M1:32.o7M1:22.p3M1:32.p3M1:22.phM1:32.phM1:23.p7.o1M1:33.p7.o1M1:24.o7M1:34.o7M1:24.p",
   "3M1:34.p3M1:24.phM1:34.phM1:24.p7M1:34.p7M1:24.pdM1:34.pdM1:25.o4.o0M1:35.o4.o0M1:25.o4.o1M1:3",
   "5.o4.o1M1:25.pdM1:35.pdM1:25.pgM1:35.pgM1:25.p7.o6M1:35.p7.o6M1:26.o7M1:36.o7M1:27.o4M1:37.o4M",
   "1:28.o7M1:38.o7M1:28.p3M1:38.p3M1:28.o8M1:38.o8M1:28.p7M1:38.p7M1:28.peM1:38.peM1:29.pgM1:39.p",
   "gM1:29.o8.o1M1:39.o8.o1M1:2b.o1M1:3b.o1M1:2b.p3M1:3b.p3M1:2b.phM1:3b.phM1:2c.p3M1:3c.p3M1:2c.p",
   "3.o4M1:3c.p3.o4M1:2c.phM1:3c.phM1:2c.pdM1:3c.pdM1:2d.o1M1:3d.o1M1:2d.o7M1:3d.o7M1:2d.p3M1:3d.p",
   "3M1:2e.o7M1:3e.o7M1:2e.p3M1:3e.p3M1:2e.phM1:3e.phM1:2e.pdM1:3e.pdM1:2f.o3.o1M1:3f.o3.o1M1:2f.o",
   "3.o8M1:3f.o3.o8M1:2f.o4.o0M1:3f.o4.o0M1:2f.o4.o1M1:3f.o4.o1M1:2g.o1M1:3g.o1M1:2g.o7M1:3g.o7M1:",
   "2i.o7M1:3i.o7M1:2i.p3M1:3i.p3M1:2i.p3.o4M1:3i.p3.o4M1:2i.phM1:3i.phM1:2j.o7M1:3j.o7M1:2j.p3M1:",
   "3j.p3M1:2j.o1.o7M1:3j.o1.o7M1:2j.oc.o7M1:3j.oc.o7M1:2j.p3.o7M1:3j.p3.o7M1:2k.o7M1:3k.o7M1:2k.p",
   "3M1:3k.p3M1:2k.phM1:3k.phM1:2k.pdM1:3k.pdM1:2l.p4M1:3l.p4M1:2l.pgM1:3l.pgM1:2l.pdM1:3l.pdM1:2l",
   ".o3.o1M1:3l.o3.o1M1:2l.o4.o8M1:3l.o4.o8M1:2m.o3M1:3m.o3M1:2m.p3M1:3m.p3M1:2n.o0M1:3n.o0M1:2n.o",
   "1M1:3n.o1M1:2n.o8M1:3n.o8M1:2n.o7M1:3n.o7M1:2n.p3M1:3n.p3M1:2o.o7M1:3o.o7M1:2o.o8M1:3o.o8M1:2p",
   ".o7M1:3p.o7M1:2q.o2M1:3q.o2M1:2q.p3M1:3q.p3M1:2q.phM1:3q.phM1:38.phM1:3k.o8M1:3n.oaM1:3p.oaM1V",
   "1:bv.o7M4V1:21.p3M1:31.p3M1:21.o9M1:31.o9M1:21.o2.o1M1:31.o2.o1M1:21.o2.o0M1:31.o2.o0M1:21.o2.",
   "o9M1:31.o2.o9M1:21.o2.o3M1:31.o2.o3M1:21.p3.o2M1:31.p3.o2M1:21.o6.o1M1:31.o6.o1M1:21.o6.o0M1:3",
   "1.o6.o0M1:21.o6.o9M1:31.o6.o9M1:21.o6.o3M1:31.o6.o3M1:21.p3.o6M1:31.p3.o6M1:25.p3M1:35.p3M1:25",
   ".o9M1:35.o9M1:25.o3M1:35.o3M1:25.o2.o1M1:35.o2.o1M1:25.o2.o0M1:35.o2.o0M1:25.o2.o9M1:35.o2.o9M",
   "1:25.o2.o3M1:35.o2.o3M1:25.p3.o2M1:35.p3.o2M1:29.o9M1:39.o9M1:29.p3M1:39.p3M1:2f.p3M1:3f.p3M1:",
   "2f.o9M1:3f.o9M1:2f.o2.o1M1:3f.o2.o1M1:2f.o2.o0M1:3f.o2.o0M1:2f.o2.o9M1:3f.o2.o9M1:2f.o2.o3M1:3",
   "f.o2.o3M1:2f.p3.o2M1:3f.p3.o2M1:2f.or.o1M1:3f.or.o1M1:2f.or.o0M1:3f.or.o0M1:2f.or.o9M1:3f.or.o",
   "9M1:2f.or.o3M1:3f.or.o3M1:2f.or.p3M1:3f.or.p3M1:2l.p3M1:3l.p3M1:2l.o9M1:3l.o9M1:2l.or.o1M1:3l.",
   "or.o1M1:2l.or.o0M1:3l.or.o0M1:2l.or.o9M1:3l.or.o9M1:2l.or.o3M1:3l.or.o3M1:2l.or.p3M1:3l.or.p3M",
   "1:2p.o0M1:3p.o0M1:2p.p3M1:3p.p3M1:2p.o9M1:3p.o9M1:2p.o3M1:3p.o3M6V1:th.ojM1:th.okM1:th.oj.o0M1",
   ":th.ok.o0M1:th.oj.o1M1:th.ok.o1M1:th.oj.q2M1:th.ok.q2M1:sh.ojM1:sh.okM1:sh.oj.o0M1:sh.ok.o0M1:",
   "sh.oj.o1M1:sh.ok.o1M1:sh.oj.q2M1:sh.ok.q2M1:tl.ojM1:tl.okM1:tl.oj.o0M1:tl.ok.o0M1:tl.oj.o1M1:t",
   "l.ok.o1M2V1:sl.ojM1:sl.okM1:sl.oj.o0M1:sl.ok.o0M1:sl.oj.o1M1:sl.ok.o1M2V1:tn.ojM1:tn.okM1:tn.o",
   "j.o0M1:tn.ok.o0M1:tn.oj.o1M1:tn.ok.o1M1:tn.oj.q2M1:tn.ok.q2M1:sn.ojM1:sn.okM1:sn.oj.o0M1:sn.ok",
   ".o0M1:sn.oj.o1M1:sn.ok.o1M1:sn.oj.q2M1:sn.ok.q2M1:tp.ojM1:tp.okM1:tp.oj.o0M1:tp.ok.o0M1:tp.oj.",
   "o1M1:tp.ok.o1M1:tp.oj.q2M1:tp.ok.q2M1:sp.ojM1:sp.okM1:sp.oj.o0M1:sp.ok.o0M1:sp.oj.o1M1:sp.ok.o",
   "1M1:sp.oj.q2M1:sp.ok.q2M1:tv.ojM1:tv.okM1:tv.oj.o0M1:tv.ok.o0M1:tv.oj.o1M1:tv.ok.o1M2V1:sv.ojM",
   "1:sv.okM1:sv.oj.o0M1:sv.ok.o0M1:sv.oj.o1M1:sv.ok.o1M2V1:u5.ojM1:u5.okM1:u5.oj.o0M1:u5.ok.o0M1:",
   "u5.oj.o1M1:u5.ok.o1M1:u5.oj.q2M1:u5.ok.q2M1V1:t5.okM1V1:t5.ok.o0M1V1:t5.ok.o1M1V1:t5.ok.q2M1:u",
   "9.ojM1:u9.okM1:u9.oj.o0M1:u9.ok.o0M1:u9.oj.o1M1:u9.ok.o1M1:u9.oj.q2M1:u9.ok.q2M1:t9.ojM1:t9.ok",
   "M1:t9.oj.o0M1:t9.ok.o0M1:t9.oj.o1M1:t9.ok.o1M1:t9.oj.q2M1:t9.ok.q2M1:th.o0M1:th.o1M1:tl.o0M1:t",
   "l.o1M1:tn.o0M1:tn.o1M1:tp.o0M1:tp.o1M1:tv.o0M1:tv.o1M1:u5.o0M1:u5.o1M1:u9.o0M1:u9.o1M2V1:th.oj",
   ".q5M1:th.ok.q5M1:th.oj.o0.q5M1:th.ok.o0.q5M1:th.oj.o1.q5M1:th.ok.o1.q5M1:th.oj.q2.q5M1:th.ok.q",
   "2.q5M1:sh.oj.q5M1:sh.ok.q5M1:sh.oj.o0.q5M1:sh.ok.o0.q5M1:sh.oj.o1.q5M1:sh.ok.o1.q5M1:sh.oj.q2.",
   "q5M1:sh.ok.q2.q5M1:tn.oj.q5M1:tn.ok.q5M1:tn.oj.o0.q5M1:tn.ok.o0.q5M1:tn.oj.o1.q5M1:tn.ok.o1.q5",
   "M1:tn.oj.q2.q5M1:tn.ok.q2.q5M1:sn.oj.q5M1:sn.ok.q5M1:sn.oj.o0.q5M1:sn.ok.o0.q5M1:sn.oj.o1.q5M1",
   ":sn.ok.o1.q5M1:sn.oj.q2.q5M1:sn.ok.q2.q5M1:u9.oj.q5M1:u9.ok.q5M1:u9.oj.o0.q5M1:u9.ok.o0.q5M1:u",
   "9.oj.o1.q5M1:u9.ok.o1.q5M1:u9.oj.q2.q5M1:u9.ok.q2.q5M1:t9.oj.q5M1:t9.ok.q5M1:t9.oj.o0.q5M1:t9.",
   "ok.o0.q5M1:t9.oj.o1.q5M1:t9.ok.o1.q5M1:t9.oj.q2.q5M1:t9.ok.q2.q5M1:th.o6M1:th.o4M1:th.o0.q5M1:",
   "th.q5M1:th.o1.q5M1V1:th.q2M1:th.q2.q5M1:sh.o6M1:sh.o4M1:sh.o0M1:sh.o1M1:sh.q5M1V1:tpM2V1:58.q2",
   "M1:tn.o0.q5M1:tn.q5M1:tn.o1.q5M1V1:tn.q2M1:tn.q2.q5M1:sl.o0M1:sl.o1M1:sn.o0M1:sn.o1M1:sn.q5M1:",
   "7tv.o0M1:7tv.o1M1:7tv.q2M1:tp.o6M1:tp.o4M1:tp.o8.o0M1:tp.o8.o1M2V1:tp.q2M1:tp.o8.q2M1:sp.o6M1:",
   "sp.o4M1:sp.o0M1:sp.o1M1V1:7vu.o0M1:7vu.o1M1:7vu.q2M1:u5.o6M1:u5.o4M1:u5.o8.o0M1:u5.o8.o1M1:u1.",
   "ojM1:u1.okM1:u5.q2M1:u5.o8.q2M1:t5.o6M1:t5.o4M1:t5.o0M1:t5.o1M1:t1.okM1:58.o0M1:58.o1M1:30M2V1",
   ":u9.o0.q5M1:u9.q5M1:u9.o1.q5M1V1:u9.q2M1:u9.q2.q5M1:sv.o0M1:sv.o1M1:t9.o0M1:t9.o1M1:t9.q5M1:5k",
   "M2V1:802M1:803M94V1:t9M3V1:2bM1:21.oaM3eV1:8cg.poM1:8ci.poMiV1:8ck.poMuV1:8eg.poM1:8ek.poM1:8e",
   "i.poM1kV1:8g3.poM4V1:8g8.poM2V1:8gb.poMnV1:8h3.poM1V1:8h5.poMqV1:8hs.poM2V1:8i3.poM2V1:8i5.poM",
   "1V1:8i8.poMmV1:1t.poM1V1:8j1.poMaV1:8id.poM1:1s.poM1:1u.poM1:8j4.poM1:8j5.poM2V1:8ji.poM1:8jj.",
   "poM2V1:8jm.poM1:8jn.poM6V1:8jq.poM1:8jr.poM2V1:8k2.poM1:8k3.poM2V1:8k6.poM1:8k7.poM12V1:8l2.po",
   "M1:8l8.poM1:8l9.poM1:8lb.poM1gV1:8js.poM1:8jt.poM1:8kh.poM1:8ki.poM6V1:8li.poM1:8lj.poM1:8lk.p",
   "oM1:8ll.poM1rV1:c08M1:c09M1thV1:amt.poM1bfV1:c2b.c4pM1V1:c2d.c4pM1V1:c2f.c4pM1V1:c2h.c4pM1V1:c",
   "2j.c4pM1V1:c2l.c4pM1V1:c2n.c4pM1V1:c2p.c4pM1V1:c2r.c4pM1V1:c2t.c4pM1V1:c2v.c4pM1V1:c31.c4pM2V1",
   ":c34.c4pM1V1:c36.c4pM1V1:c38.c4pM6V1:c3f.c4pM1:c3f.c4qM1V1:c3i.c4pM1:c3i.c4qM1V1:c3l.c4pM1:c3l",
   ".c4qM1V1:c3o.c4pM1:c3o.c4qM1V1:c3r.c4pM1:c3r.c4qMmV1:c26.c4pM9V1:c4t.c4pMdV1:c5b.c4pM1V1:c5d.c",
   "4pM1V1:c5f.c4pM1V1:c5h.c4pM1V1:c5j.c4pM1V1:c5l.c4pM1V1:c5n.c4pM1V1:c5p.c4pM1V1:c5r.c4pM1V1:c5t",
   ".c4pM1V1:c5v.c4pM1V1:c61.c4pM2V1:c64.c4pM1V1:c66.c4pM1V1:c68.c4pM6V1:c6f.c4pM1:c6f.c4qM1V1:c6i",
   ".c4pM1:c6i.c4qM1V1:c6l.c4pM1:c6l.c4qM1V1:c6o.c4pM1:c6o.c4qM1V1:c6r.c4pM1:c6r.c4qMmV1:c56.c4pM2",
   "V1:c7f.c4pM1:c7g.c4pM1:c7h.c4pM1:c7i.c4pM3V1:c7t.c4pM1i01V1:1328M1:pnkM1:13maM1:1368M1:rmhM1:j",
   "hiM1:kv5M1:17ssM1:17ssM1:mahM1:14ehM1:lc7M1:ma8M1:ofmM1:tj9M1:vs5M1:11hvM1:11tqM1:127oM1:144fM",
   "1:qg2M1:r8rM1:s6pM1:suuM1:111tM1:14baM1:16fhM1:jk2M1:krlM1:qo4M1:sgrM1:11hdM1:17guM1:nagM1:rvb",
   "M1:11edM1:12b4M1:om9M1:10eoM1:120vM1:nmaM1:ponM1:rbaM1:snsM1:146eM1:js6M1:kdnM1:kmuM1:p64M1:qm",
   "jM1:sggM1:tn7M1:1001M1:11g6M1:11isM1:13ffM1:15piM1:16rfM1:17fqM1:u4cM1:ubvM1:vd0M1:10u9M1:14o4",
   "M1:17jvM1:12mmM1:m6vM1:no4M1:v30M1:103uM1:sj2M1:u6aM1:1362M1:15nnM1:m6oM1:n32M1:qgjM1:reqM1:ro",
   "fM1:v9fM1:vhnM1:15ibM1:kmiM1:104bM1:kesM1:kecM1:ugsM1:vduM1:10vhM1:15jlM1:12s0M1:omfM1:qg2M1:1",
   "2nuM1:jhpM1:mv7M1:o0iM1:ss7M1:tbgM1:konM1:u7rM1:jtvM1:nt9M1:jgdM1:r6cM1:pboM1:v92M1:ku3M1:m2uM",
   "1:to1M1:1129M1:12laM1:qtqM1:13tgM1:r48M1:onuM1:10n5M1:ot0M1:tb5M1:jleM1:kb9M1:ke9M1:q41M1:v77M",
   "1:10jfM1:12miM1:14efM1:knlM1:l22M1:mbjM1:nncM1:pe5M1:rvuM1:u9aM1:15ddM1:16jaM1:17knM1:17meM1:k",
   "krM1:pm6M1:qrnM1:13r2M1:njkM1:ocgM1:og0M1:p4qM1:rp3M1:sa9M1:t49M1:ueaM1:vfkM1:103fM1:13p6M1:11",
   "7eM1:1413M1:14qaM1:kgnM1:kl3M1:l5tM1:s68M1:1262M1:12laM1:nm9M1:nvlM1:orrM1:qteM1:v1uM1:srlM1:j",
   "n4M1:lnpM1:mv7M1:ndqM1:o0sM1:stiM1:t39M1:vsqM1:1026M1:14hkM1:15nmM1:15q8M1:160oM1:jsbM1:udeM1:",
   "14dkM1:15loM1:o71M1:jk6M1:k6qM1:mveM1:n1vM1:pcpM1:qg2M1:seeM1:ti2M1:117sM1:143sM1:17sdM1:pk8M1",
   ":15heM1:kk9M1:prrM1:pvjM1:ra1M1:rksM1:t09M1:tapM1:u3bM1:v8gM1:162uM1:kbdM1:oheM1:15joM1:k1bM1:",
   "n8pM1:rfaM1:13paM1:nsbM1:oa4M1:q0nM1:ss7M1:15k6M1:kh9M1:l0fM1:n35M1:pgjM1:pqeM1:q58M1:r75M1:t0",
   "6M1:tf2M1:vrpM1:126fM1:1271M1:14ecM1:15n2M1:kpvM1:rlqM1:l0tM1:segM1:t4oM1:11fqM1:15l3M1:172nM1",
   ":17kvM1:psnM1:rebM1:10f8M1:umbM1:up0M1:v4iM1:sm0M1:s4pM1:12qoM1:jm0M1:10pmM1:khqM1:kg7M1:nl6M1",
   ":omjM1:v6mM1:ms5M1:r8uM1:plkM1:13prM1:122cM1:15idM1:12cbM1:nmjM1:ka0M1:le0M2V1:m2qM1V1:pjkM2V1",
   ":keuM1:spaM1:tmaM1:u9sM1:uauM1:ub5M1:ucfM1:15qmM1:v5uM1:vttM1V1:11giM1V1:12noM2V1:141oM1:147tM",
   "3V1:167fM1:167sM1:1698M1:17dkM1:146uM1:15lnM1:jteM1:k77M1:kadM1:km9M1:kn4M1:kqhM1:lctM1:lg6M1:",
   "lj8M1:m20M1:m58M1:n34M1:n3eM1:o4kM1:ob8M1:oceM1:ofiM1:pafM1:pf2M1:pkhM1:q45M1:rbnM1:rgqM1:rp2M",
   "1:sbeM1:shbM1:t12M1:u4hM1:u9uM1:ua9M1:ua8M1:uagM1:uamM1:uatM1:ucdM1:uceM1:ui0M1:uk1M1:uu0M1:vf",
   "kM1:vg9M1:vi1M1:vriM1:1005M1:10fdM1:10jpM1:10jpM1:112nM1:128gM1:12cmM1:12o1M1:12ppM1:136jM1:13",
   "88M1:13tmM1:141oM1:15n3M1:15vvM1:161rM1:o3lM1:4gneM1:10goM2V1:jh6M1:kdlM1:kb8M1:js0M1:ka5M1:kc",
   "0M1:km7M1:knqM1:lctM1:lalM1:lcpM1:lf2M1:m2qM1:m5jM1:ma4M1:makM1:mj2M1:mp8M1:nmiM1:nmpM1:nr9M1:",
   "ntdM1:o6oM1:oaeM1:o88M1:oceM1:ob0M1:ofiM1:ohkM1:ou4M1:p0sM1:p2iM1:pamM1:pjkM1:ponM1:porM1:pqmM",
   "1:qrpM1:qtqM1:ra1M1:rmrM1:rmbM1:rp2M1:s0uM1:sbeM1:tt7M1:shlM1:slfM1:spaM1:t3hM1:t86M1:t9rM1:tg",
   "tM1:tgvM1:tmaM1:tmrM1:tnkM1:tqaM1:tq0M1:u6cM1:ulhM1:uu0M1:v3rM1:varM1:vfkM1:vpuM1:1005M1:10qiM",
   "1:10vfM1:11rpM1:12a1M1:12c6M1:12cmM1:12lvM1:12noM1:12mbM1:12o1M1:12nuM1:12ndM1:12ppM1:12saM1:1",
   "388M1:13poM1:143iM1:14cpM1:14jmM1:15jsM1:15n3M1:15qmM1:15urM1:15vvM1:160bM1:161rM1:16oiM1:17ss",
   "M1:4a2aM1:4a24M1:4culM1:estM1:g0oM1:g1pM1:4ki9M1:4n6gM1:4vmjM1:17q3M1:17seM23V1:1ep.1dkM1V1:1f",
   "i.1dnMaV1:1f9.1e1M1:1f9.1e2M1:1f9.1ds.1e1M1:1f9.1ds.1e2M1:1eg.1dnM1:1eg.1doM1:1eg.1dsM1:1eh.1d",
   "sM1:1ei.1dsM1:1ej.1dsM1:1ek.1dsM1:1el.1dsM1:1em.1dsM1V1:1eo.1dsM1:1ep.1dsM1:1eq.1dsM1:1er.1dsM",
   "1:1es.1dsM1V1:1eu.1dsM1V1:1f0.1dsM1:1f1.1dsM1V1:1f3.1dsM1:1f4.1dsM1V1:1f6.1dsM1:1f7.1dsM1:1f8.",
   "1dsM1:1f9.1dsM1:1fa.1dsM1:1el.1dpM1:1eh.1dvM1:1er.1dvM1:1f4.1dvM5abV1:244p.245qM1V1:244r.245qM",
   "eV1:2455.245qM42V1:249h.2497M1:249i.2497MgrV1:24q7.24puM1:24q7.24qnMbeV1:255p.255qM1:255p.255g",
   "M1V1:255p.255tM7rV1:25do.25dfM1:25dp.25dfMrsV1:269l.269gM1e15V1:3kan.3kb5M1:3kao.3kb5M1:3kao.3",
   "kb5.3kbeM1:3kao.3kb5.3kbfM1:3kao.3kb5.3kbgM1:3kao.3kb5.3kbhM1:3kao.3kb5.3kbiM2mV1:3kdp.3kb5M1:",
   "3kdq.3kb5M1:3kdp.3kb5.3kbeM1:3kdq.3kb5.3kbeM1:3kdp.3kb5.3kbfM1:3kdq.3kb5.3kbfM29hvV1:jhtM1:jho",
   "M1:ji1M1:4092M1:jr0M1:jteM1:jtrM1:k02M1:k3qM1:k4pM1:k77M1:k6fM1:d4uM1:41hqM1:kadM1:kakM1:kb4M1",
   ":kbnM1:418sM1:d5pM1:kb7M1:kcdM1:41abM1:kcnM1:kd4M1:jmcM1:kdcM1:kdlM1:54evM1:kflM1:kg3M1:d6vM1:",
   "khrM1:ki6M1:kjiM1:kjnM1:d8lM1:km7M1:km9M1:kn4M1:knqM1:ko5M1:ko6M1:konM1:kq9M1:kqhM1:kqqM1:krjM",
   "1:krtM1:krvM1:krvM1:krvM1:42hcM1:s3gM1:kuaM1:kuvM1:42r3M1:kvbM1:kvhM1:l06M1:l4uM1:l1oM1:l28M1:",
   "l38M1:l52M1:l7mM1:l8gM1:lajM1:lb3M1:lc4M1:lc4M1:lcpM1:ldbM1:ldjM1:le2M1:lomM1:lg6M1:lonM1:lihM",
   "1:ljkM1:kg7M1:m7eM1:lueM1:lvkM1:m0dM1:lsbM1:m1iM1:m1hM1:m5cM1:4574M1:m7iM1:m7nM1:m86M1:m8qM1:m",
   "92M1:mb2M1:45l8M1:45naM1:mfcM1:mgrM1:mh7M1:meoM1:mj6M1:dneM1:dnsM1:mo8M1:mpuM1:mpuM1:46e8M1:mu",
   "3M1:muoM1:mv7M1:mvjM1:46ooM1:mvvM1:n06M1:nqjM1:n12M1:ds1M1:n30M1:n3eM1:n60M1:n4dM1:47f4M1:na3M",
   "1:47f6M1:nbeM1:nbbM1:nbsM1:nf1M1:nf2M1:e1fM1:nftM1:nh8M1:nhtM1:nj9M1:e32M1:48c3M1:e3sM1:nlgM1:",
   "nljM1:nlmM1:nmaM1:58siM1:nnuM1:48phM1:48phM1:10g1M1:np2M1:np2M1:e67M1:4cloM1:4oeqM1:nr2M1:nrbM",
   "1:e73M1:nsqM1:nudM1:nunM1:nvpM1:o41M1:e9qM1:e8sM1:o4kM1:49mkM1:o67M1:oa8M1:oacM1:oaeM1:oacM1:o",
   "bqM1:oceM1:odiM1:od4M1:odfM1:oeuM1:ofiM1:ofmM1:oggM1:ogrM1:oitM1:olhM1:omkM1:oqgM1:4aocM1:optM",
   "1:onsM1:or8M1:os3M1:ov4M1:4avhM1:p12M1:ou5M1:ot9M1:eheM1:p39M1:p3uM1:p4tM1:p3nM1:ejcM1:pafM1:p",
   "bcM1:4c0aM1:pf3M1:pnoM1:pi9M1:eopM1:pkhM1:eo8M1:en4M1:kciM1:kclM1:po0M1:pksM1:105dM1:gupM1:pon",
   "M1:porM1:pp1M1:pquM1:pqjM1:4cu3M1:eq9M1:pvqM1:ps5M1:q2iM1:q45M1:4d3dM1:q4eM1:q0vM1:q8kM1:estM1",
   ":qa2M1:qd3M1:qfaM1:ql8M1:4dl3M1:qmrM1:f0oM1:qp1M1:4e57M1:qqkM1:f2eM1:qriM1:qsvM1:qtqM1:qtrM1:4",
   "ekdM1:478bM1:4enqM1:r2eM1:4f5sM1:r5vM1:r6dM1:r37M1:r8mM1:r9uM1:rbnM1:ra1M1:rb9M1:rboM1:rc5M1:4",
   "f8uM1:r9kM1:rhfM1:rjeM1:f9jM1:rmbM1:rm7M1:4fmhM1:rfpM1:rreM1:4fquM1:4fseM1:ru6M1:s1pM1:s0uM1:s",
   "0rM1:fcmM1:s2aM1:s3tM1:s3nM1:s5dM1:4195M1:sa5M1:4gj3M1:scsM1:4gtbM1:sh8M1:shlM1:sigM1:4hg8M1:s",
   "k0M1:sklM1:4hplM1:4i0kM1:srqM1:ssbM1:flcM1:st5M1:floM1:floM1:t27M1:t2sM1:t3hM1:t45M1:t6aM1:for",
   "M1:t94M1:4j1mM1:t9uM1:4j4iM1:tbgM1:48cvM1:tggM1:4jt1M1:4jtoM1:4k24M1:fvsM1:g08M1:tnkM1:4k7jM1:",
   "4k7iM1:4k8pM1:4k9jM1:touM1:tovM1:tovM1:tqaM1:g1pM1:tsbM1:g26M1:g4mM1:4l0tM1:u2eM1:u4cM1:u6cM1:",
   "g73M1:4lh6M1:uamM1:4lkqM1:4lm5M1:ucfM1:ufbM1:g9fM1:ui0M1:uiaM1:uifM1:4mbsM1:4ml7M1:4ml7M1:uneM",
   "1:gg2M1:4mtbM1:uu6M1:uu9M1:gh7M1:4n40M1:v6iM1:gl0M1:v78M1:v73M1:v80M1:4ns6M1:vb3M1:go1M1:ve7M1",
   ":vg2M1:vi5M1:gpkM1:4oh8M1:4oi7M1:gqpM1:4ompM1:vrqM1:4opuM1:vslM1:vvqM1:1005M1:4p6qM1:4p93M1:10",
   "30M1:4pd8M1:103gM1:4cqvM1:gulM1:105iM1:1083M1:h0bM1:109uM1:mllM1:4pt7M1:4ptlM1:4csjM1:4cssM1:1",
   "0g1M1:10g4M1:13suM1:h3bM1:10khM1:10kbM1:10ktM1:kljM1:10lhM1:10ljM1:10ltM1:10n6M1:4qpsM1:10n5M1",
   ":10otM1:10r3M1:10tdM1:10p3M1:10ttM1:10v7M1:112nM1:10qjM1:10uaM1:10ucM1:10usM1:4r1mM1:4rbbM1:4r",
   "6lM1:h9bM1:117hM1:117jM1:118mM1:4suaM1:11b4M1:4rpcM1:hatM1:hb1M1:4rthM1:4s6iM1:hbbM1:11igM1:11",
   "isM1:11j7M1:11j9M1:11l9M1:11k8M1:11oeM1:11n2M1:11rpM1:11p8M1:11rbM1:11s6M1:henM1:11v1M1:1201M1",
   ":hfpM1:1230M1:1233M1:4tj7M1:126nM1:126uM1:hhlM1:127qM1:d5rM1:4u5eM1:4ub6M1:hluM1:hm7M1:12l0M1:",
   "12ndM1:12saM1:132lM1:4v58M1:135bM1:1361M1:138rM1:13bnM1:4vpfM1:4204M1:13ebM1:13dsM1:13fgM1:426",
   "uM1:13mkM1:13poM1:51eiM1:51fdM1:144kM1:147hM1:148hM1:51peM1:148rM1:14hoM1:14mnM1:14moM1:14jsM1",
   ":14vpM1:150lM1:52vqM1:15cbM1:iclM1:15dnM1:53bnM1:if6M1:15m3M1:ndiM1:15p3M1:54a5M1:54gqM1:ijeM1",
   ":ijmM1:15v0M1:550aM1:iliM1:554mM1:160bM1:160bM1:1619M1:55dmM1:1672M1:ipjM1:1699M1:16d7M1:16e2M",
   "1:16fuM1:iueM1:56pgM1:16oiM1:1720M1:177tM1:j6eM1:j7dM1:17b7M1:586eM1:j7oM1:5885M1:58geM1:58khM",
   "1:17lrM1:jamM1:17npM1:17nuM1:17o5M1:17ofM1:17omM1:17prM1:59g0M"]

/-- The two code points that compose to this one. -/
def compositions : CodeMap := CodeMap.ofLines
  ["60V1:21.o0M1:21.o1M1:21.o2M1:21.o3M1:21.o8M1:21.oaM1V1:23.p7M1:25.o0M1:25.o1M1:25.o2M1:25.o8M1",
   ":29.o0M1:29.o1M1:29.o2M1:29.o8M1V1:2e.o3M1:2f.o0M1:2f.o1M1:2f.o2M1:2f.o3M1:2f.o8M2V1:2l.o0M1:2",
   "l.o1M1:2l.o2M1:2l.o8M1:2p.o1M2V1:31.o0M1:31.o1M1:31.o2M1:31.o3M1:31.o8M1:31.oaM1V1:33.p7M1:35.",
   "o0M1:35.o1M1:35.o2M1:35.o8M1:39.o0M1:39.o1M1:39.o2M1:39.o8M1V1:3e.o3M1:3f.o0M1:3f.o1M1:3f.o2M1",
   ":3f.o3M1:3f.o8M2V1:3l.o0M1:3l.o1M1:3l.o2M1:3l.o8M1:3p.o1M1V1:3p.o8M1:21.o4M1:31.o4M1:21.o6M1:3",
   "1.o6M1:21.p8M1:31.p8M1:23.o1M1:33.o1M1:23.o2M1:33.o2M1:23.o7M1:33.o7M1:23.ocM1:33.ocM1:24.ocM1",
   ":34.ocM2V1:25.o4M1:35.o4M1:25.o6M1:35.o6M1:25.o7M1:35.o7M1:25.p8M1:35.p8M1:25.ocM1:35.ocM1:27.",
   "o2M1:37.o2M1:27.o6M1:37.o6M1:27.o7M1:37.o7M1:27.p7M1:37.p7M1:28.o2M1:38.o2M2V1:29.o3M1:39.o3M1",
   ":29.o4M1:39.o4M1:29.o6M1:39.o6M1:29.p8M1:39.p8M1:29.o7M3V1:2a.o2M1:3a.o2M1:2b.p7M1:3b.p7M1V1:2",
   "c.o1M1:3c.o1M1:2c.p7M1:3c.p7M1:2c.ocM1:3c.ocM4V1:2e.o1M1:3e.o1M1:2e.p7M1:3e.p7M1:2e.ocM1:3e.oc",
   "M3V1:2f.o4M1:3f.o4M1:2f.o6M1:3f.o6M1:2f.obM1:3f.obM2V1:2i.o1M1:3i.o1M1:2i.p7M1:3i.p7M1:2i.ocM1",
   ":3i.ocM1:2j.o1M1:3j.o1M1:2j.o2M1:3j.o2M1:2j.p7M1:3j.p7M1:2j.ocM1:3j.ocM1:2k.p7M1:3k.p7M1:2k.oc",
   "M1:3k.ocM2V1:2l.o3M1:3l.o3M1:2l.o4M1:3l.o4M1:2l.o6M1:3l.o6M1:2l.oaM1:3l.oaM1:2l.obM1:3l.obM1:2",
   "l.p8M1:3l.p8M1:2n.o2M1:3n.o2M1:2p.o2M1:3p.o2M1:2p.o8M1:2q.o1M1:3q.o1M1:2q.o7M1:3q.o7M1:2q.ocM1",
   ":3q.ocM11V1:2f.orM1:3f.orMdV1:2l.orM1:3l.orMsV1:21.ocM1:31.ocM1:29.ocM1:39.ocM1:2f.ocM1:3f.ocM",
   "1:2l.ocM1:3l.ocM1:6s.o4M1:7s.o4M1:6s.o1M1:7s.o1M1:6s.ocM1:7s.ocM1:6s.o0M1:7s.o0M1V1:64.o4M1:74",
   ".o4M1:h6.o4M1:h7.o4M1:66.o4M1:76.o4M2V1:27.ocM1:37.ocM1:2b.ocM1:3b.ocM1:2f.p8M1:3f.p8M1:fa.o4M",
   "1:fb.o4M1:dn.ocM1:ki.ocM1:3a.ocM3V1:27.o1M1:37.o1M2V1:2e.o0M1:3e.o0M1:65.o1M1:75.o1M1:66.o1M1:",
   "76.o1M1:6o.o1M1:7o.o1M1:21.ofM1:31.ofM1:21.ohM1:31.ohM1:25.ofM1:35.ofM1:25.ohM1:35.ohM1:29.ofM",
   "1:39.ofM1:29.ohM1:39.ohM1:2f.ofM1:3f.ofM1:2f.ohM1:3f.ohM1:2i.ofM1:3i.ofM1:2i.ohM1:3i.ohM1:2l.o",
   "fM1:3l.ofM1:2l.ohM1:3l.ohM1:2j.p6M1:3j.p6M1:2k.p6M1:3k.p6M2V1:28.ocM1:38.ocM6V1:21.o7M1:31.o7M",
   "1:25.p7M1:35.p7M1:6m.o4M1:7m.o4M1:6l.o4M1:7l.o4M1:2f.o7M1:3f.o7M1:he.o4M1:hf.o4M1:2p.o4M1:3p.o",
   "4MahV1:58.o1M1:sh.o1M1V1:sl.o1M1:sn.o1M1:sp.o1M1V1:sv.o1M1V1:t5.o1M1:t9.o1M1:ua.o1MpV1:sp.o8M1",
   ":t5.o8M1:th.o1M1:tl.o1M1:tn.o1M1:tp.o1M1:ub.o1MpV1:tp.o8M1:u5.o8M1:tv.o1M1:u5.o1M1:u9.o1M4V1:u",
   "i.o1M1:ui.o8M1bV1:10l.o0M1:10l.o8M1V1:10j.o1M3V1:106.o8M4V1:10q.o1M1:10o.o0M1:113.o6MaV1:10o.o",
   "6MvV1:11o.o6MmV1:11l.o0M1:11l.o8M1V1:11j.o1M3V1:12m.o8M4V1:11q.o1M1:11o.o0M1:123.o6MnV1:13k.of",
   "M1:13l.ofM29V1:10m.o6M1:11m.o6MdV1:10g.o6M1:11g.o6M1:10g.o8M1:11g.o8M2V1:10l.o6M1:11l.o6M2V1:1",
   "6o.o8M1:16p.o8M1:10m.o8M1:11m.o8M1:10n.o8M1:11n.o8M2V1:10o.o4M1:11o.o4M1:10o.o8M1:11o.o8M1:10u",
   ".o8M1:11u.o8M2V1:178.o8M1:179.o8M1:11d.o8M1:12d.o8M1:113.o4M1:123.o4M1:113.o8M1:123.o8M1:113.o",
   "bM1:123.obM1:117.o8M1:127.o8M2V1:11b.o8M1:12b.o8M98V1:1h7.1ijM1:1h7.1ikM1:1i8.1ikM1:1h7.1ilM1:",
   "1ia.1ikM4pV1:1ml.1ikM1V1:1m1.1ikMgV1:1mi.1ikMilV1:298.29sM7V1:29g.29sM2V1:29j.29sM4mV1:2e7.2du",
   "M1:2e7.2enMbrV1:2q7.2qmM2V1:2q7.2puM1:2q7.2qnM27V1:2si.2unM1lV1:2u6.2tuM1:2u7.2tuM1:2u6.2unM3r",
   "V1:326.32mM3nV1:35v.36lM6V1:366.36lM1:366.36mM1V1:366.362M1:36a.36lM3uV1:3a6.39uM1:3a7.39uM1:3",
   "a6.3anM4dV1:3ep.3eaM1V1:3ep.3efM1:3es.3eaM1:3ep.3evMi7V1:415.41eM2mvV1:6o5.6plM1V1:6o7.6plM1V1",
   ":6o9.6plM1V1:6ob.6plM1V1:6od.6plM3V1:6oh.6plM18V1:6pq.6plM1V1:6ps.6plM2V1:6pu.6plM1:6pv.6plM1V",
   "1:6q2.6plMlsV1:21.p5M1:31.p5M1:22.o7M1:32.o7M1:22.p3M1:32.p3M1:22.phM1:32.phM1:67.o1M1:77.o1M1",
   ":24.o7M1:34.o7M1:24.p3M1:34.p3M1:24.phM1:34.phM1:24.p7M1:34.p7M1:24.pdM1:34.pdM1:8i.o0M1:8j.o0",
   "M1:8i.o1M1:8j.o1M1:25.pdM1:35.pdM1:25.pgM1:35.pgM1:h8.o6M1:h9.o6M1:26.o7M1:36.o7M1:27.o4M1:37.",
   "o4M1:28.o7M1:38.o7M1:28.p3M1:38.p3M1:28.o8M1:38.o8M1:28.p7M1:38.p7M1:28.peM1:38.peM1:29.pgM1:3",
   "9.pgM1:6f.o1M1:7f.o1M1:2b.o1M1:3b.o1M1:2b.p3M1:3b.p3M1:2b.phM1:3b.phM1:2c.p3M1:3c.p3M1:7hm.o4M",
   "1:7hn.o4M1:2c.phM1:3c.phM1:2c.pdM1:3c.pdM1:2d.o1M1:3d.o1M1:2d.o7M1:3d.o7M1:2d.p3M1:3d.p3M1:2e.",
   "o7M1:3e.o7M1:2e.p3M1:3e.p3M1:2e.phM1:3e.phM1:2e.pdM1:3e.pdM1:6l.o1M1:7l.o1M1:6l.o8M1:7l.o8M1:a",
   "c.o0M1:ad.o0M1:ac.o1M1:ad.o1M1:2g.o1M1:3g.o1M1:2g.o7M1:3g.o7M1:2i.o7M1:3i.o7M1:2i.p3M1:3i.p3M1",
   ":7iq.o4M1:7ir.o4M1:2i.phM1:3i.phM1:2j.o7M1:3j.o7M1:2j.p3M1:3j.p3M1:aq.o7M1:ar.o7M1:b0.o7M1:b1.",
   "o7M1:7j2.o7M1:7j3.o7M1:2k.o7M1:3k.o7M1:2k.p3M1:3k.p3M1:2k.phM1:3k.phM1:2k.pdM1:3k.pdM1:2l.p4M1",
   ":3l.p4M1:2l.pgM1:3l.pgM1:2l.pdM1:3l.pdM1:b8.o1M1:b9.o1M1:ba.o8M1:bb.o8M1:2m.o3M1:3m.o3M1:2m.p3",
   "M1:3m.p3M1:2n.o0M1:3n.o0M1:2n.o1M1:3n.o1M1:2n.o8M1:3n.o8M1:2n.o7M1:3n.o7M1:2n.p3M1:3n.p3M1:2o.",
   "o7M1:3o.o7M1:2o.o8M1:3o.o8M1:2p.o7M1:3p.o7M1:2q.o2M1:3q.o2M1:2q.p3M1:3q.p3M1:2q.phM1:3q.phM1:3",
   "8.phM1:3k.o8M1:3n.oaM1:3p.oaM1V1:bv.o7M4V1:21.p3M1:31.p3M1:21.o9M1:31.o9M1:62.o1M1:72.o1M1:62.",
   "o0M1:72.o0M1:62.o9M1:72.o9M1:62.o3M1:72.o3M1:7l0.o2M1:7l1.o2M1:82.o1M1:83.o1M1:82.o0M1:83.o0M1",
   ":82.o9M1:83.o9M1:82.o3M1:83.o3M1:7l0.o6M1:7l1.o6M1:25.p3M1:35.p3M1:25.o9M1:35.o9M1:25.o3M1:35.",
   "o3M1:6a.o1M1:7a.o1M1:6a.o0M1:7a.o0M1:6a.o9M1:7a.o9M1:6a.o3M1:7a.o3M1:7lo.o2M1:7lp.o2M1:29.o9M1",
   ":39.o9M1:29.p3M1:39.p3M1:2f.p3M1:3f.p3M1:2f.o9M1:3f.o9M1:6k.o1M1:7k.o1M1:6k.o0M1:7k.o0M1:6k.o9",
   "M1:7k.o9M1:6k.o3M1:7k.o3M1:7mc.o2M1:7md.o2M1:d0.o1M1:d1.o1M1:d0.o0M1:d1.o0M1:d0.o9M1:d1.o9M1:d",
   "0.o3M1:d1.o3M1:d0.p3M1:d1.p3M1:2l.p3M1:3l.p3M1:2l.o9M1:3l.o9M1:df.o1M1:dg.o1M1:df.o0M1:dg.o0M1",
   ":df.o9M1:dg.o9M1:df.o3M1:dg.o3M1:df.p3M1:dg.p3M1:2p.o0M1:3p.o0M1:2p.p3M1:3p.p3M1:2p.o9M1:3p.o9",
   "M1:2p.o3M1:3p.o3M6V1:th.ojM1:th.okM1:7o0.o0M1:7o1.o0M1:7o0.o1M1:7o1.o1M1:7o0.q2M1:7o1.q2M1:sh.",
   "ojM1:sh.okM1:7o8.o0M1:7o9.o0M1:7o8.o1M1:7o9.o1M1:7o8.q2M1:7o9.q2M1:tl.ojM1:tl.okM1:7og.o0M1:7o",
   "h.o0M1:7og.o1M1:7oh.o1M2V1:sl.ojM1:sl.okM1:7oo.o0M1:7op.o0M1:7oo.o1M1:7op.o1M2V1:tn.ojM1:tn.ok",
   "M1:7p0.o0M1:7p1.o0M1:7p0.o1M1:7p1.o1M1:7p0.q2M1:7p1.q2M1:sn.ojM1:sn.okM1:7p8.o0M1:7p9.o0M1:7p8",
   ".o1M1:7p9.o1M1:7p8.q2M1:7p9.q2M1:tp.ojM1:tp.okM1:7pg.o0M1:7ph.o0M1:7pg.o1M1:7ph.o1M1:7pg.q2M1:",
   "7ph.q2M1:sp.ojM1:sp.okM1:7po.o0M1:7pp.o0M1:7po.o1M1:7pp.o1M1:7po.q2M1:7pp.q2M1:tv.ojM1:tv.okM1",
   ":7q0.o0M1:7q1.o0M1:7q0.o1M1:7q1.o1M2V1:sv.ojM1:sv.okM1:7q8.o0M1:7q9.o0M1:7q8.o1M1:7q9.o1M2V1:u",
   "5.ojM1:u5.okM1:7qg.o0M1:7qh.o0M1:7qg.o1M1:7qh.o1M1:7qg.q2M1:7qh.q2M1V1:t5.okM1V1:7qp.o0M1V1:7q",
   "p.o1M1V1:7qp.q2M1:u9.ojM1:u9.okM1:7r0.o0M1:7r1.o0M1:7r0.o1M1:7r1.o1M1:7r0.q2M1:7r1.q2M1:t9.ojM",
   "1:t9.okM1:7r8.o0M1:7r9.o0M1:7r8.o1M1:7r9.o1M1:7r8.q2M1:7r9.q2M1:th.o0M1V1:tl.o0M1V1:tn.o0M1V1:",
   "tp.o0M1V1:tv.o0M1V1:u5.o0M1V1:u9.o0M3V1:7o0.q5M1:7o1.q5M1:7o2.q5M1:7o3.q5M1:7o4.q5M1:7o5.q5M1:",
   "7o6.q5M1:7o7.q5M1:7o8.q5M1:7o9.q5M1:7oa.q5M1:7ob.q5M1:7oc.q5M1:7od.q5M1:7oe.q5M1:7of.q5M1:7p0.",
   "q5M1:7p1.q5M1:7p2.q5M1:7p3.q5M1:7p4.q5M1:7p5.q5M1:7p6.q5M1:7p7.q5M1:7p8.q5M1:7p9.q5M1:7pa.q5M1",
   ":7pb.q5M1:7pc.q5M1:7pd.q5M1:7pe.q5M1:7pf.q5M1:7r0.q5M1:7r1.q5M1:7r2.q5M1:7r3.q5M1:7r4.q5M1:7r5",
   ".q5M1:7r6.q5M1:7r7.q5M1:7r8.q5M1:7r9.q5M1:7ra.q5M1:7rb.q5M1:7rc.q5M1:7rd.q5M1:7re.q5M1:7rf.q5M",
   "1:th.o6M1:th.o4M1:7rg.q5M1:th.q5M1:tc.q5M1V1:th.q2M1:7tm.q5M1:sh.o6M1:sh.o4M1:sh.o0M1V1:sh.q5M",
   "4V1:58.q2M1:7rk.q5M1:tn.q5M1:te.q5M1V1:tn.q2M1:7u6.q5M1:sl.o0M1V1:sn.o0M1V1:sn.q5M1:7tv.o0M1:7",
   "tv.o1M1:7tv.q2M1:tp.o6M1:tp.o4M1:ua.o0M3V1:tp.q2M1:ua.q2M1:sp.o6M1:sp.o4M1:sp.o0M2V1:7vu.o0M1:",
   "7vu.o1M1:7vu.q2M1:u5.o6M1:u5.o4M1:ub.o0M1V1:u1.ojM1:u1.okM1:u5.q2M1:ub.q2M1:t5.o6M1:t5.o4M1:t5",
   ".o0M1V1:t1.okM1:58.o0M4V1:7rs.q5M1:u9.q5M1:ue.q5M1V1:u9.q2M1:7vm.q5M1:sv.o0M1V1:t9.o0M1V1:t9.q",
   "5MctV1:8cg.poM1:8ci.poMiV1:8ck.poMuV1:8eg.poM1:8ek.poM1:8ei.poM1kV1:8g3.poM4V1:8g8.poM2V1:8gb.",
   "poMnV1:8h3.poM1V1:8h5.poMqV1:8hs.poM2V1:8i3.poM2V1:8i5.poM1V1:8i8.poMmV1:1t.poM1V1:8j1.poMaV1:",
   "8id.poM1:1s.poM1:1u.poM1:8j4.poM1:8j5.poM2V1:8ji.poM1:8jj.poM2V1:8jm.poM1:8jn.poM6V1:8jq.poM1:",
   "8jr.poM2V1:8k2.poM1:8k3.poM2V1:8k6.poM1:8k7.poM12V1:8l2.poM1:8l8.poM1:8l9.poM1:8lb.poM1gV1:8js",
   ".poM1:8jt.poM1:8kh.poM1:8ki.poM6V1:8li.poM1:8lj.poM1:8lk.poM1:8ll.poM3auV1:c2b.c4pM1V1:c2d.c4p",
   "M1V1:c2f.c4pM1V1:c2h.c4pM1V1:c2j.c4pM1V1:c2l.c4pM1V1:c2n.c4pM1V1:c2p.c4pM1V1:c2r.c4pM1V1:c2t.c",
   "4pM1V1:c2v.c4pM1V1:c31.c4pM2V1:c34.c4pM1V1:c36.c4pM1V1:c38.c4pM6V1:c3f.c4pM1:c3f.c4qM1V1:c3i.c",
   "4pM1:c3i.c4qM1V1:c3l.c4pM1:c3l.c4qM1V1:c3o.c4pM1:c3o.c4qM1V1:c3r.c4pM1:c3r.c4qMmV1:c26.c4pM9V1",
   ":c4t.c4pMdV1:c5b.c4pM1V1:c5d.c4pM1V1:c5f.c4pM1V1:c5h.c4pM1V1:c5j.c4pM1V1:c5l.c4pM1V1:c5n.c4pM1",
   "V1:c5p.c4pM1V1:c5r.c4pM1V1:c5t.c4pM1V1:c5v.c4pM1V1:c61.c4pM2V1:c64.c4pM1V1:c66.c4pM1V1:c68.c4p",
   "M6V1:c6f.c4pM1:c6f.c4qM1V1:c6i.c4pM1:c6i.c4qM1V1:c6l.c4pM1:c6l.c4qM1V1:c6o.c4pM1:c6o.c4qM1V1:c",
   "6r.c4pM1:c6r.c4qMmV1:c56.c4pM2V1:c7f.c4pM1:c7g.c4pM1:c7h.c4pM1:c7i.c4pM3V1:c7t.c4pM1nsrV1:244p",
   ".245qM1V1:244r.245qMeV1:2455.245qM42V1:249h.2497M1:249i.2497MgrV1:24q7.24puM1:24q7.24qnMbeV1:2",
   "55p.255qM1:255p.255gM1V1:255p.255tM7rV1:25do.25dfM1:25dp.25dfMrsV1:269l.269gM"]

/-- The canonical combining class; 0 is that of the code points that begin a sequence. -/
def combiningClasses : Runs := Runs.ofLines
  ["o0AlIW1IY4IM1IY1II5IM2HU4IM2HUbIM5B4IM8IW1JG1IW3IM3IW2IM1A3IW4IM1IW1IY2IM1IW1IZ2JA1IZ2JA1IZdIW",
   "8jA5IW89A1IM4IW1IM3IW1IO1IM6IW6IM2IW1IM2IW1IO1IU1IW1K1L1M1N1O1P1Q1R1S2T1U1V1W1A1X1A1Y1Z1A1IW1I",
   "M1A1S28A8IW1BE1BF1BG1gA1BB1BC1BD1BE1BF1BG1BH1BI2IW2IM5IW1IM2IW1IMgA1BJ35A7IW2A4IW1IM1IW2A2IW1A",
   "1IM2IW1IM13A1BKuA1IW1IM2IW1IM2IW3IM1IW2IM1IW1IM3IW1IM1IW1IM1IW1IM1IW1IM2IW50A7IW1IM1IW9A1IMoA4",
   "IW1A9IW1A3IW1A5IW1bA3IM1sA1IW3IM4IW1aA5IW5IMeIW1A1IM2IW1IM2IW1IM3IW3IM1BB1BC1BD3IW1IM2IW2IM5IW",
   "1sA1HgA1J3A1IW1IM2IW37A1HgA1J1gA1IW1tA1HgA1J3eA1HgA1J3eA1HgA1J3vA1J3eA1HgA1J7A1DG1DN35A1HgA1J3",
   "dA2JgA1J3sA1J3dA2DZ1JdA4ED3cA2EO1JdA4ES2cA2IMrA1IM1A1IM1A1II1nA1EZ1FA1A1FC5A4FA2A1FA1A2IW1J1A2",
   "IW1uA1IM3gA1H1A2J2iA1IMmfA3IWtkA2JuA1J4tA1JaA1IW6bA1IU4fA1IO1IW1IM6rA1IW1IM27A1JkA8IW2A1IM1gA5",
   "IW6IM2IW1IM1A2IM2IW2IM5IW1IM4IW35A1HfA1J16A1IW1IM7IW1mA2J1qA1HbA2J23A1H4oA3IW1A1B5IM2IW4IM1IW1",
   "A7B4A1IM6A1IW3A2IW66A2IW1IM7IW1IM2IW1JA1IG1IM1HU15IW1IY2IU1IM1IK1IW1IZ1IM1IW1IMmgA2IW2B4IW3B2I",
   "W4A1IW3A2B1IW1IM1IW2B4IM1IW2vuA3IW4dA1J30A10IWhaA1IK1IU1IY1IO2IQ39A2ItekA1IW4AaIW10A2IW2gA2IW8",
   "kA1J15A1J4nA1JrAiIW1pA3IM15A1J2vA1HcA1J7fA1IW1A2IW1IM2A2IW5A2IW1A1IW1kA1J7mA1JjpgA1BAo1A7IW7IM",
   "2IWudA1IM72A1IM4lA5IW1kiA1IM1A1IW18A1IW1B1IM4A1J55A1IW1IMhtA4IWc3A2IW2gA3IM26A2IM3IW1IM1IW4IM1",
   "hA1IW1IM1IW1IM60A1J19A1JeA1J1pA1J1H25A3IW1gA2J1uA1H2cA1J9A1H3aA1J1H5iA1H1J2gA2HgA1JoA7IW3A5IW6",
   "dA1J3A1HnA1IW33A1J1H7rA1J1H3uA1J3mA1J1H3jA1J8dA1J1H82A2J4A1H4sA1J2jA1JiA1J2hA1Jd5A1J82A1H1A2J2",
   "hA1Jd9A2JitdA5B1rA7IW15pA2Gj5cA1B566A2II3B3A1IS5II8A8IM2A5IW2IMuA4IW4kA3IW3drA7IW1AhIW2A7IW1A2",
   "IW1A5IW34A1IW50A7IWbnA1IW1tA4IWfsA2IY1IM1IWv0A7IM3dA6IW1H"]

def combiningClass (c : Char) : Nat := combiningClasses.get c.toNat

end Lockstep.Idna
