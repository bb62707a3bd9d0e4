import DebugControl.Unicode.Runs

/-!
# Ages

The age of a character is the version in which it was assigned. A pattern names all characters that
were assigned in a version or before it.
-/

namespace DebugControl.Unicode

def versions : List (Char × String) :=
  [('a', "1.1"), ('b', "2.0"), ('c', "2.1"), ('d', "3.0"), ('e', "3.1"), ('f', "3.2"),
    ('g', "4.0"), ('h', "4.1"), ('i', "5.0"), ('j', "5.1"), ('k', "5.2"), ('l', "6.0"),
    ('m', "6.1"), ('n', "6.2"), ('o', "6.3"), ('p', "7.0"), ('q', "8.0"), ('r', "9.0"),
    ('s', "10.0"), ('t', "11.0"), ('u', "12.0"), ('v', "12.1"), ('w', "13.0"), ('x', "14.0"),
    ('y', "15.0"), ('z', "15.1"), ('A', "16.0")]

/-- The ages of all code points, each letter with the length of its run unless that is one. -/
def ageTable : String := String.join [
  "a502d4a30d8fgd18g3h11i14a89d5g2a47da10d5g17a70d9fg8h5g3a2df13j4a2j2-2ai3ap-4a7-a-a20-a44ja7d",
  "f2adadadada18e2fg5h4da12da66da12da41jd2f2d4a53f2a2f2a2f2ia28d2a8h2a2i6f16i4j16k2l2p8-a38-2a7t",
  "a39tad-2p2m-b17hb13a10ia9bh3-8a27-4ta5-11g4mpj5hag9j5aoxhala26j5a19d3g3h6la14f2a72d2a5da15d",
  "a30g2a10d5gd14-d30g3d27-2g3h30j18d49f-14i59-2t3k46-2k15-l28-2l-s11-5x31-x2-5Ax8mpm11p6q2xr8",
  "w10x11tr15qm27pka3ga53l2a18kla5kl2a25j2l5pk2i2hi2pa3-a8-2a2-2a22-a7-a-3a4-2aga7-2a2-2a3h-8a-4",
  "a2-a5-2a21ks2t-2gag-a6-4a2-2a22-a7-a2-a2-a2-2a-a5-4a2-2a3-3j-7a4-a-7a15jt-10a3-a7ga-a3-a22-a7",
  "-a2-a5-2a10-a3-a3-2a-15ag3-2a10mg-7qs6-a3-a8-2a2-2a22-a7-a2-ga4-2a8j-2a2-2a3-7wa2-4a2-a3j2-2",
  "a11gl6-10a2-a6-3a3-a4-3a2-a-a2-3a2-3a3-3a8ha3-4a5-3a3-a4-2j-6a-14ha12g8-5pa3ta8-a3-a23-a10pa5",
  "-2xja7-a3-a4-7a2-j2q-2x-2a2j2-2a10-7uj8rpa2ta8-a3-a23-a10-a5-2g2a7-a3-a4-7a2-6xa-a2i2-2a10-i2",
  "y-12spa2wa8-a3-a23la16ls2ja6j-a3-a4lr-4r3ar7qa2j2-2a10j6r3j7-wd2-d18-3d24-d9-d-2d7-3d-4d6-d-",
  "d8-6p10-2d3-12a58-4a29-37a2-a-ua2ua-uau6a4ua7ua3-a-au2a2ua13ua3-2a5-a-a6y-a10-2a2m2-32b72-b33",
  "dj2-4b27l4b6db-b21d3b7dbd3-d15-jdh2j3k4l2-37d34jd5jd2jd7j3d4j6d26j64k4j2a38-m-5m-2a39f2h2ahm3",
  "a90k5a68k5a82k6d7hd63hd-d4-2d7-d-d4-2d39hd-d4-2d31hd-d4-2d7-d-d4-2d7hd7-d23hd31hd-d4-2d7hd39h",
  "d19-2l2h2d28-3h26-6d85q-2q6-2kd630k9d29-3d81p8-7f13xf7x-9xf23-9f20-12f13-f3-f2-12d93g-2d10-6",
  "g10-6d15xd10-6d88t-7d42j-5k70-10g29p2-g12-4g12-4g-3g42-2g5-11h42k2-4h26-6h10k-3h2g32h28-2h2",
  "k63-k29-2k11-6k10-6k14-2p15w2x14-49i76x-A2i45x2Aj43m3j12m6l52-8l4j56-3j15-3j51r9A2-5t43-2t3m8",
  "-8k35m4sp2u-5g108h88i7j28p15s4xrlki2a155bj4a90j6a22-2a6-2a38-2a6-2a8-a-a-a-a31-2a53-a15-a14-2",
  "a6-a19-2a3-a9-a47da23fd6f5g2h2fh7f5j-o4a7f-2a27-h5l8-3a11bcd3f2h4k3lnp3qsx-15a18d2f7hi4j-15",
  "a57d2ghf15hi2jk3a48dij4kq2-4a91d9f12a242f14ada121dfd30f52g2h11i12kl11p7r4sa37d2A3-22a11-21",
  "a139f20ga150f10a80d8f8a20g2f2hda86d2f12h2f10g8h11jk2g2h16ij10k3j4k10lk19lkl4k24pa4la4l2a28l",
  "a35lala4l3aka7l2a7f14a31l3a24la14lh7i4mjml2f28j4f16d256f512g14h6i7j5i4j41p3j5k5p26-2p32-wp34",
  "t3p12up8st25q4t15uh47xh47xi13j3kj3i4j6k2h107k7m2-5h45-m-5m-2h54m2-7hl-14lh23-9h7-h7-h7-h7-h7-",
  "h7-h7-h7-j32h24j4h2j19km10p7r2s5t5uw3x11-34d26-d89-12d214-26d12z4a56d3f3da-a84f2-2a6f2a94f-5",
  "a40jst-a94-a16d24l3w5h16j20A2-9zf16a29g2-a36k12gf15a28g2ha50f15a12g4a47va119g4a99g2a31gd6582",
  "w10g64a20902h22j8k8mq9s21t5w13x3d1165-3d18f2d16fd12fd3fd-9k48j300-20j32l2j18m8j28p6qmk88-8h23",
  "i4j5i2j107l2ql2m2p12l10mp3rtp2q6t2u6x2u5w4A3-2x2-x-x5A3-21x3w2pm2lj5h44w-3k10-6i56-8j69r-8j12",
  "-6k28q2t2j84-11jk29-3k78-k11-4k2p31-j55-9j14-2j10-2j4k28p4k67-24k5m23-10l6-2l6-2l6-9l7-l7-p48",
  "q4p2u2w4-4q80k46-2k10-6b11172-12k23-4k49-2052a6702m2f59k3-2h106-38a7-12a5-5da25-a5-a-a2-a2-",
  "a108l16x-16a365x16a64-2a54-7xe32a12fgx2f16h10-6a4j3p7q2a21f2g2a10-a19-a4-4a3fa-a135-2a-a94f2",
  "a94-3a6-2a6-2a6-2a3-3a7-a7-10d3ca3g12-g26-g19-g2-g15-2g14-34g123-5g3-4g45-3g9h75p2r2-j12w-3p",
  "-47j46-130j29-3j49-15p28-4e31pe4-9s3e27-5p43-5g30-gh36-4h14-42e38g2e38g80-2g10-6r36-4r36-4p40",
  "-8p52-11px11-x15-x7-x2-x11-x15-x7-x2-3A52-12p311-9p22-10p8-24x6-x42-x9-69g6-2g-g44-g2-3g-2g",
  "k22-k9p63-8p9-48q19-q2-5q5i26k2-3ij26-5j-64m56-4q2m2q16-2q46h4-h2-5h8-h3-h27t2-2h3-4h9t-7h9-7",
  "k32p32-32p39-4p12-9k54-3k29-2k27-5k8p18-7p4-12p7-80k73-55q51-13q51-7q6t40-8t10-6A38-3A29-8A2",
  "-208k31-w42-w3-2w2-16A3-55Ay3t40-8t42-22x26-38w28-20u23-9l78-4l30x6-9pk66x-10t-2m25-7m10-6m53",
  "-m14t3w-8p39-9m73q4pw2m10pq5-p20-11p18-p43ry3-62q7-q-q4-q15-q11-6p59-5p10-6qp3-p8-2p2-2p22-p7",
  "-p2-p5-tp9-2p2-2p3-2q-6p-5p7-2p7-3p5-11A10-A-2A-A38-A10-A-2A-A4-A10-A2-8A2-29r90wr-rtuw2-30",
  "p72-8p10-166p54-2p18q20-34p69-11p10-6r13-19m56ux-6m10-6A20-28q26t-2q15-4q16x7-185t60-100p83",
  "-12pw7-2w-2w8-w2-w30-w2-2w12-9w10-70u8-2u46-2u11-27s72-8s52u2s23ts5-13x16p57-7y10-182A34-14",
  "A10-6r9-r45-r14-10r29-3r32-2r22-r14-73s7-s2-s44-3s-s2-s9-8s10-6t6-t2-t37-t2-t6-7t10-310t25-7",
  "y17-y41-3y28A-85w-15u50-13ui879p42q-102i99p12-i4p-11q196-2636x99-13k1071yu9y29-10A3995-5q583",
  "-6841A58-1734l569-7p31-p10-4p2x79-x10-6p30-2p6-10p70-10p10-p7-p21-5p19-432A58-198t91-101m69u6",
  "-4um47u9-7m17-64rsu2w-11w2-14r6125t5u6-8r755w483-41Aw9-8935x4-x7-x2-l2s285x4-15y-29u3-2y-14u4",
  "-8s396-2308p107-5p13-3p9-7p10-2p8-3932A250-6A436-76x46-2x23-9x116-60e246-10e39-2je180q11x2-21",
  "h70-122y20-12t20-12g87-9i18t7-135e85-e71-e2-2e-2e2-2e4-e12-e-e4ge2-e65-e4-2e8-e7-e28-e4-e5-e",
  "-3e7-e338h2-2e290i2-2e50q652-15q5-q15-1104x31-6y6-213r7-r17-2r7-r2-r5-5y62-33y-112u45-3u14-2",
  "u10-4u2-320x31-17u58-5u-464y42-214A43-4A-480x7-x4-x2-x15-p197-2p16-41r75u-4r10-4r2-785t68-76",
  "u61-194m4-m27-m2-m-2m-m10-m4-m-m-6m-4m-m-m-m3-m2-m-2m-m-m-m-m-m2-m-2m4-m7-m4-m4-m-m10-m17-5m3",
  "-m5-m17-52m2-270j44-4j100-12l15-2l14p-l15-l15p22-10k11p2w3k31tlkl11klkl2kl3kl3k5l8kl7kl10m2u",
  "w3l9klk2l2kl10k4l2kl10r18w-56l26kl2-13k34l9r-4k9-7l2-14s6-154l33p12q3l6pl70pq2l20p12l37pl5p4",
  "q5p12l17p7q8l63plpl182pl4p2ql62p2m4p7q5l24p18rp41rp86l5ml16ml3mlmlmlml3ml6m2l4mlm2l4ml12p2q2",
  "l11p48l70p10qr2s2uw2-4yx3p13-3p4r3s2tuw2-3l116y3-4y5p85t4y-6u12-4x-15p12-4p56-8p10-6p40-8p30",
  "-2w2A10-4A2-62s12wu3q9r6sr8s8rs2r12ur12st3r15s13t5uwt4w2xtut4q5r13s6t11w2u6w3u2t10u6qt2u8wxu3",
  "s23t25u84-12t14-2u4wy3u3x2-3u3w4y2A-5Au6w19x4y3w7x4y3Ayw3x3A-7y2w7x3y2A-2Ax8yA-6x7y2-7w147-",
  "w55A37w10-1028b2e42711w7x2-32k4149x4y-6l222-2q5762-14s7473-15z622-2466e542-1504b2w4939-5y4192",
  "-56398b2-65534b2-65534b2-65534b2-65534b2-65534b2-65534b2-65534b2-65534b2-65534b2-65534b2-e-30",
  "e96-128g240-65038b131074"]

/-- Whether a name stands for a version: as it is written, or behind a letter without its point. -/
def isVersion (version name : String) : Bool :=
  name == version || name == String.ofList ('v' :: version.toList.filter (· ≠ '.'))

def ageSet? (name : String) : Option CharSet :=
  (versions.findIdx? fun v => isVersion v.2 name).map fun i =>
    let letters := (versions.take (i + 1)).map Prod.fst
    runSet (fun code => letters.any fun c => code == [c]) (readRuns 1 ageTable)

end DebugControl.Unicode
